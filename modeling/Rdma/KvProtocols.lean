import Mathlib.Data.Nat.Notation
import Mathlib.Tactic.Ring

/-!
The protocol of the key-value example (`kv_protocol.h`): the operation and status
codes, the size constants, the fixed headers of requests and responses, and the segment
descriptors. What is written as bytes is read back (`read_header`,
`read_descriptor`).
-/
namespace Rdma.KvProtocols

inductive OpType
  | get
  | put
  | getResponse
  | putResponse
  deriving DecidableEq, Repr

def OpType.value : OpType → UInt8
  | .get => 1
  | .put => 2
  | .getResponse => 3
  | .putResponse => 4

inductive Status
  | ok
  | notFound
  | noSpace
  | invalidRequest
  | internalError
  deriving DecidableEq, Repr

def Status.value : Status → UInt8
  | .ok => 0
  | .notFound => 1
  | .noSpace => 2
  | .invalidRequest => 3
  | .internalError => 4

structure RequestHeader where
  opType : UInt8
  segmentCount : UInt8
  reserved : UInt16
  valueSize : UInt32
  key : UInt64
  deriving DecidableEq, Repr

def RequestHeader.setGet (key : UInt64) : RequestHeader := ⟨OpType.get.value, 0, 0, 0, key⟩

def RequestHeader.setPut (key : UInt64) (size : UInt32) (segments : UInt8) : RequestHeader :=
  ⟨OpType.put.value, segments, 0, size, key⟩

structure ResponseHeader where
  opType : UInt8
  status : UInt8
  reserved : UInt16
  valueSize : UInt32
  key : UInt64
  deriving DecidableEq, Repr

def ResponseHeader.setGetResponse (key : UInt64) (status : Status) (size : UInt32) : ResponseHeader :=
  ⟨OpType.getResponse.value, status.value, 0, size, key⟩

def ResponseHeader.setPutResponse (key : UInt64) (status : Status) : ResponseHeader :=
  ⟨OpType.putResponse.value, status.value, 0, 0, key⟩

structure SegmentDescriptor where
  offset : UInt32
  length : UInt32
  deriving DecidableEq, Repr

/-- The bytes of a number, the lowest first. -/
def byteOf (value index : Nat) : UInt8 := (value / 256 ^ index).toUInt8

/-- The number in `count` bytes from `start` on, the lowest byte first. -/
def littleEndian (bytes : Nat → UInt8) (start : Nat) : Nat → Nat
  | 0 => 0
  | count + 1 => (bytes start).toNat + 256 * littleEndian bytes (start + 1) count

/-- The request header at the start of the bytes. -/
def RequestHeader.read (bytes : Nat → UInt8) : RequestHeader :=
  ⟨bytes 0, bytes 1, (littleEndian bytes 2 2).toUInt16, (littleEndian bytes 4 4).toUInt32,
    (littleEndian bytes 8 8).toUInt64⟩

/-- The response header at the start of the bytes. -/
def ResponseHeader.read (bytes : Nat → UInt8) : ResponseHeader :=
  ⟨bytes 0, bytes 1, (littleEndian bytes 2 2).toUInt16, (littleEndian bytes 4 4).toUInt32,
    (littleEndian bytes 8 8).toUInt64⟩

/-- A request header in memory. -/
def RequestHeader.bytes (header : RequestHeader) (index : Nat) : UInt8 :=
  if index = 0 then header.opType
  else if index = 1 then header.segmentCount
  else if index < 4 then byteOf header.reserved.toNat (index - 2)
  else if index < 8 then byteOf header.valueSize.toNat (index - 4)
  else byteOf header.key.toNat (index - 8)

/-- The segment descriptor at `start`. -/
def SegmentDescriptor.read (bytes : Nat → UInt8) (start : Nat) : SegmentDescriptor :=
  ⟨(littleEndian bytes start 4).toUInt32, (littleEndian bytes (start + 4) 4).toUInt32⟩

/-- A segment descriptor in memory. -/
def SegmentDescriptor.bytes (descriptor : SegmentDescriptor) (index : Nat) : UInt8 :=
  if index < 4 then byteOf descriptor.offset.toNat index else byteOf descriptor.length.toNat (index - 4)

/-- `sizeof` of the request and of the response header. -/
def HEADER_SIZE : Nat := 16
/-- `sizeof` of a segment descriptor. -/
def DESCRIPTOR_SIZE : Nat := 8

def MIN_VALUE_SIZE : UInt32 := 4096
def MAX_VALUE_SIZE : UInt32 := 65536
def VALUE_ALIGN : UInt32 := 4096
def MAX_SEGMENTS : UInt8 := 16
def MAX_REQUEST_SIZE : Nat := HEADER_SIZE + MAX_SEGMENTS.toNat * DESCRIPTOR_SIZE + MAX_VALUE_SIZE.toNat
def MAX_RESPONSE_SIZE : Nat := HEADER_SIZE + MAX_VALUE_SIZE.toNat

def isValidValueSize (size : UInt32) : Bool :=
  size ≥ MIN_VALUE_SIZE && size ≤ MAX_VALUE_SIZE && size % VALUE_ALIGN == 0

theorem valid_le {size : UInt32} (valid : isValidValueSize size = true) : size.toNat ≤ 65536 := by
  simp only [isValidValueSize, Bool.and_eq_true, decide_eq_true_eq] at valid
  exact UInt32.le_iff_toNat_le.mp valid.1.2

/-- Below the largest size a valid size leaves room for an alignment unit. -/
theorem valid_short {size : UInt32} (valid : isValidValueSize size = true) (smaller : size ≠ MAX_VALUE_SIZE) :
    size.toNat + 4096 ≤ 65536 := by
  simp only [isValidValueSize, Bool.and_eq_true, decide_eq_true_eq, beq_iff_eq] at valid
  obtain ⟨⟨-, small⟩, aligned⟩ := valid
  have low := UInt32.le_iff_toNat_le.mp small
  have multiple := congrArg UInt32.toNat aligned
  have apart : size.toNat ≠ MAX_VALUE_SIZE.toNat := fun same => smaller (UInt32.toNat_inj.mp same)
  rw [UInt32.toNat_mod, show VALUE_ALIGN.toNat = 4096 from rfl, UInt32.toNat_zero] at multiple
  rw [show MAX_VALUE_SIZE.toNat = 65536 from rfl] at low apart
  omega

/-! ### What is written is read -/

theorem littleEndian_congr {bytes other : Nat → UInt8} {start shift count : Nat}
    (same : ∀ i < count, bytes (start + i) = other (shift + i)) :
    littleEndian bytes start count = littleEndian other shift count := by
  induction count generalizing start shift with
  | zero => rfl
  | succ count ih =>
    have first : bytes start = other shift := same 0 (Nat.succ_pos count)
    have later : ∀ i < count, bytes (start + 1 + i) = other (shift + 1 + i) := by
      intro i below
      have next := same (i + 1) (Nat.succ_lt_succ below)
      rwa [← Nat.add_assoc, ← Nat.add_assoc, Nat.add_right_comm, Nat.add_right_comm shift] at next
    rw [littleEndian, littleEndian, first, ih later]

theorem littleEndian_byteOf (value start count : Nat) :
    littleEndian (fun index => byteOf value (index - start)) start count = value % 256 ^ count := by
  induction count generalizing value start with
  | zero => simp [littleEndian, Nat.mod_one]
  | succ count ih =>
    have later : littleEndian (fun index => byteOf value (index - start)) (start + 1) count =
        littleEndian (fun index => byteOf (value / 256) (index - (start + 1))) (start + 1) count := by
      refine littleEndian_congr fun i _ => ?_
      have before : start + 1 + i - start = i + 1 := by omega
      have behind : start + 1 + i - (start + 1) = i := by omega
      rw [byteOf, byteOf, before, behind, Nat.pow_succ', Nat.div_div_eq_div_mul]
    rw [littleEndian, later, ih, Nat.sub_self, Nat.pow_succ', Nat.mod_mul]
    simp [byteOf]

/-- The bytes of a number that fits are read back as the number. -/
theorem littleEndian_bytes {bytes : Nat → UInt8} {value start count : Nat} (fits : value < 256 ^ count)
    (written : ∀ i < count, bytes (start + i) = byteOf value i) : littleEndian bytes start count = value := by
  have same : littleEndian bytes start count = littleEndian (fun index => byteOf value (index - start)) start count :=
    littleEndian_congr fun i below => by rw [written i below, Nat.add_sub_cancel_left]
  rw [same, littleEndian_byteOf, Nat.mod_eq_of_lt fits]

theorem read_header {bytes : Nat → UInt8} {header : RequestHeader}
    (written : ∀ i < HEADER_SIZE, bytes i = header.bytes i) : RequestHeader.read bytes = header := by
  have opType : bytes 0 = header.opType := written 0 (by decide)
  have segmentCount : bytes 1 = header.segmentCount := written 1 (by decide)
  have at_ : ∀ i start, start + i < HEADER_SIZE → bytes (start + i) = header.bytes (start + i) :=
    fun i start inside => written (start + i) inside
  have reserved : littleEndian bytes 2 2 = header.reserved.toNat := by
    refine littleEndian_bytes header.reserved.toNat_lt fun i below => ?_
    rw [at_ i 2 (show 2 + i < 16 by omega), RequestHeader.bytes, if_neg (by omega), if_neg (by omega),
      if_pos (by omega), Nat.add_sub_cancel_left]
  have valueSize : littleEndian bytes 4 4 = header.valueSize.toNat := by
    refine littleEndian_bytes header.valueSize.toNat_lt fun i below => ?_
    rw [at_ i 4 (show 4 + i < 16 by omega), RequestHeader.bytes, if_neg (by omega), if_neg (by omega),
      if_neg (by omega), if_pos (by omega), Nat.add_sub_cancel_left]
  have key : littleEndian bytes 8 8 = header.key.toNat := by
    refine littleEndian_bytes header.key.toNat_lt fun i below => ?_
    rw [at_ i 8 (show 8 + i < 16 by omega), RequestHeader.bytes, if_neg (by omega), if_neg (by omega),
      if_neg (by omega), if_neg (by omega), Nat.add_sub_cancel_left]
  rw [RequestHeader.read, opType, segmentCount, reserved, valueSize, key]
  simp

theorem header_congr {bytes other : Nat → UInt8} (same : ∀ i < HEADER_SIZE, bytes i = other i) :
    RequestHeader.read bytes = RequestHeader.read other := by
  have number : ∀ start count, start + count ≤ 16 → littleEndian bytes start count = littleEndian other start count :=
    fun start count inside => littleEndian_congr fun i below => same (start + i) (show start + i < 16 by omega)
  rw [RequestHeader.read, RequestHeader.read, same 0 (by decide), same 1 (by decide), number 2 2 (by decide),
    number 4 4 (by decide), number 8 8 (by decide)]

theorem read_congr {bytes other : Nat → UInt8} {start : Nat}
    (same : ∀ i < DESCRIPTOR_SIZE, bytes (start + i) = other (start + i)) :
    SegmentDescriptor.read bytes start = SegmentDescriptor.read other start := by
  have first : littleEndian bytes start 4 = littleEndian other start 4 :=
    littleEndian_congr fun i below => same i (show i < 8 by omega)
  have second : littleEndian bytes (start + 4) 4 = littleEndian other (start + 4) 4 := by
    refine littleEndian_congr fun i below => ?_
    rw [Nat.add_assoc]
    exact same (4 + i) (show 4 + i < 8 by omega)
  rw [SegmentDescriptor.read, SegmentDescriptor.read, first, second]

theorem read_descriptor {bytes : Nat → UInt8} {descriptor : SegmentDescriptor} {start : Nat}
    (written : ∀ i < DESCRIPTOR_SIZE, bytes (start + i) = descriptor.bytes i) :
    SegmentDescriptor.read bytes start = descriptor := by
  have offset : littleEndian bytes start 4 = descriptor.offset.toNat := by
    refine littleEndian_bytes descriptor.offset.toNat_lt fun i below => ?_
    rw [written i (show i < 8 by omega), SegmentDescriptor.bytes, if_pos below]
  have length : littleEndian bytes (start + 4) 4 = descriptor.length.toNat := by
    refine littleEndian_bytes descriptor.length.toNat_lt fun i below => ?_
    rw [Nat.add_assoc, written (4 + i) (show 4 + i < 8 by omega), SegmentDescriptor.bytes, if_neg (by omega),
      Nat.add_sub_cancel_left]
  rw [SegmentDescriptor.read, offset, length]
  simp

end Rdma.KvProtocols
