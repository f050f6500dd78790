/-
Module: Gossipper.Hep.Wellformed
Purpose: What `Decode` accepts, and what it reads from a packet that it accepts.
Trusted boundary: none
Main exports: Chunk, packetOf, WellFormed, decode_packetOf, decode_ok_iff, decode_accepts_exactly
-/
import Gossipper.Hep.Codec

namespace Gossipper.Hep

open Go List

/-! ### Packets as lists of chunks -/

/-- A chunk whose size, with its header of six bytes, fits sixteen bits. -/
structure Chunk where
  vendor : UInt16
  chunkType : UInt16
  payload : Bytes
  fits : payload.length + 6 < 65536

def Chunk.size (c : Chunk) : Nat :=
  c.payload.length + 6

def Chunk.bytes (c : Chunk) : Bytes :=
  putUint16 c.vendor ++ (putUint16 c.chunkType ++ (putUint16 (UInt16.ofNat c.size) ++ c.payload))

/-- The chunks of a packet, one behind the other. -/
def bodyOf (chunks : List Chunk) : Bytes :=
  chunks.flatMap Chunk.bytes

/-- A packet: the four letters, its length in sixteen bits, and the chunks. -/
def packetOf (chunks : List Chunk) : Bytes :=
  ascii "HEP3" ++ (putUint16 (UInt16.ofNat (6 + (bodyOf chunks).length)) ++ bodyOf chunks)

/-- The packet `p` consists of `chunks`, and its length fits the header. -/
def WellFormed (p : Bytes) (chunks : List Chunk) : Prop :=
  p = packetOf chunks ∧ p.length < 65536

variable (front rest : Bytes) (chunks : List Chunk) (p : Bytes) (c : Chunk) (out : Fields)

@[simp] theorem Chunk.bytes_length : c.bytes.length = c.size := by
  simp only [bytes, length_append, putUint16_length, size]
  omega

theorem Chunk.size_toNat : (UInt16.ofNat c.size).toNat = c.size :=
  UInt16.toNat_ofNat_of_lt c.fits

@[simp] theorem bodyOf_nil : bodyOf [] = [] := rfl

@[simp] theorem bodyOf_cons (rest : List Chunk) :
    bodyOf (c :: rest) = c.bytes ++ bodyOf rest := by
  simp [bodyOf]

theorem magic_length : (ascii "HEP3").length = 4 := by
  decide

theorem packetOf_length :
    (packetOf chunks).length = 6 + (bodyOf chunks).length := by
  rw [packetOf, length_append, length_append, putUint16_length, magic_length]
  omega

/-! ### One round of the loop -/

/-- What the loop does with a chunk. -/
def Fields.read (out : Fields) (c : Chunk) : Fields :=
  out.assign c.chunkType c.payload

def fieldsOf (chunks : List Chunk) : Fields :=
  chunks.foldl Fields.read .zero

theorem slice_from (front back : Bytes) :
    slice (front ++ back) front.length (front ++ back).length = some back := by
  simpa using slice_middle front back []

theorem exists_six (long : ¬ p.length < 6) :
    ∃ a b c d k l rest, p = a :: b :: c :: d :: k :: l :: rest := by
  obtain _ | ⟨a, _ | ⟨b, _ | ⟨c, _ | ⟨d, _ | ⟨k, _ | ⟨l, rest⟩⟩⟩⟩⟩⟩ := p
  case cons.cons.cons.cons.cons.cons => exact ⟨a, b, c, d, k, l, rest, rfl⟩
  all_goals simp at long

theorem decodeFrom_chunk :
    decodeFrom (front ++ (c.bytes ++ rest)) front.length out =
      decodeFrom (front ++ (c.bytes ++ rest)) (front.length + c.size) (out.read c) := by
  have least : 6 ≤ c.size := Nat.le_add_left _ _
  have total : (front ++ (c.bytes ++ rest)).length = front.length + (c.size + rest.length) := by
    simp
  have typeSlice : slice (front ++ (c.bytes ++ rest)) (front.length + 2) (front.length + 4) =
      some (putUint16 c.chunkType) := by
    have part := slice_middle (front ++ putUint16 c.vendor) (putUint16 c.chunkType)
      (putUint16 (UInt16.ofNat c.size) ++ c.payload ++ rest)
    simpa [Chunk.bytes] using part
  have lengthSlice : slice (front ++ (c.bytes ++ rest)) (front.length + 4) (front.length + 6) =
      some (putUint16 (UInt16.ofNat c.size)) := by
    have part := slice_middle (front ++ putUint16 c.vendor ++ putUint16 c.chunkType)
      (putUint16 (UInt16.ofNat c.size)) (c.payload ++ rest)
    simpa [Chunk.bytes] using part
  have payloadSlice : slice (front ++ (c.bytes ++ rest)) (front.length + 6)
      (front.length + c.size) = some c.payload := by
    have part := slice_middle (front ++ putUint16 c.vendor ++ putUint16 c.chunkType ++
      putUint16 (UInt16.ofNat c.size)) c.payload rest
    have finish : front.length + c.size = front.length + 6 + c.payload.length := by
      rw [Chunk.size]
      omega
    rw [finish]
    simpa [Chunk.bytes] using part
  rw [decodeFrom, if_pos (by omega), slice_from]
  simp only [typeSlice, lengthSlice, uint16_putUint16, c.size_toNat]
  rw [if_neg (by rw [length_append, c.bytes_length]; omega), dif_neg (by omega)]
  simp only [payloadSlice]
  rfl

theorem decodeFrom_cases (more : rest ≠ []) :
    (∃ error, decodeFrom (front ++ rest) front.length out = .fail error) ∨
      ∃ c tail, rest = Chunk.bytes c ++ tail := by
  have inside : front.length < (front ++ rest).length := by
    simpa [length_pos_iff] using more
  by_cases short : rest.length < 6
  · left
    rw [decodeFrom, if_pos inside, slice_from]
    simp only [if_pos short]
    exact ⟨_, rfl⟩
  · obtain ⟨v, w, t, u, k, l, tail, rfl⟩ := exists_six rest short
    have bound := (uint16 [k, l]).toNat_lt
    by_cases bad : (uint16 [k, l]).toNat < 6 ∨
        (front ++ v :: w :: t :: u :: k :: l :: tail).length <
          front.length + (uint16 [k, l]).toNat
    · left
      have typeSlice := slice_middle (front ++ [v, w]) [t, u] (k :: l :: tail)
      have lengthSlice := slice_middle (front ++ [v, w, t, u]) [k, l] tail
      simp only [append_assoc, cons_append, nil_append, length_append,
        length_cons, length_nil, Nat.zero_add, Nat.add_assoc, Nat.reduceAdd]
        at typeSlice lengthSlice
      rw [decodeFrom, if_pos inside, slice_from]
      simp only [if_neg short, typeSlice, lengthSlice, dif_pos bad]
      exact ⟨_, rfl⟩
    · right
      simp only [length_append, length_cons] at bad
      have cut : (tail.take ((uint16 [k, l]).toNat - 6)).length = (uint16 [k, l]).toNat - 6 := by
        rw [length_take]
        omega
      refine ⟨⟨uint16 [v, w], uint16 [t, u], tail.take ((uint16 [k, l]).toNat - 6), by omega⟩,
        tail.drop ((uint16 [k, l]).toNat - 6), ?_⟩
      have size : (uint16 [k, l]).toNat - 6 + 6 = (uint16 [k, l]).toNat := by omega
      simp [Chunk.bytes, Chunk.size, cut, size, UInt16.ofNat_toNat, put_uint16, cons_append,
        nil_append, take_append_drop]

/-! ### The loop -/

open Fields

theorem decodeFrom_body (front : Bytes) (chunks : List Chunk) (out : Fields) :
    decodeFrom (front ++ bodyOf chunks) front.length out = .ok (chunks.foldl read out) := by
  induction chunks generalizing front out with
  | nil =>
    rw [decodeFrom, if_neg (by simp)]
    rfl
  | cons c rest ih =>
    rw [bodyOf_cons, decodeFrom_chunk]
    have onward := ih (front ++ c.bytes) (out.read c)
    rw [append_assoc, length_append, c.bytes_length] at onward
    exact onward

theorem decodeFrom_total :
    (∃ error, decodeFrom (front ++ rest) front.length out = .fail error) ∨
      ∃ chunks, rest = bodyOf chunks := by
  -- on the length of what is left, since every chunk has six bytes at least
  induction size : rest.length using Nat.strongRecOn generalizing front rest out with
  | _ n ih =>
    by_cases done : rest = []
    · exact .inr ⟨[], done⟩
    · obtain failed | ⟨c, tail, rfl⟩ := decodeFrom_cases front rest out done
      · exact .inl failed
      · have least : 6 ≤ c.size := Nat.le_add_left _ _
        have shorter : tail.length < n := by
          rw [length_append, c.bytes_length] at size
          omega
        obtain ⟨error, failed⟩ | ⟨chunks, rfl⟩ :=
          ih tail.length shorter (front ++ c.bytes) tail (out.read c) rfl
        · refine .inl ⟨error, ?_⟩
          rw [append_assoc, length_append, c.bytes_length] at failed
          rw [decodeFrom_chunk, failed]
        · exact .inr ⟨c :: chunks, (bodyOf_cons c chunks).symm⟩

/-! ### The whole packet -/

/-- Behind a right header `Decode` is its loop. -/
theorem decode_header (rest : Bytes) (fits : 6 + rest.length < 65536) :
    decode (ascii "HEP3" ++ (putUint16 (UInt16.ofNat (6 + rest.length)) ++ rest)) =
      match decodeFrom (ascii "HEP3" ++ (putUint16 (UInt16.ofNat (6 + rest.length)) ++ rest))
          6 .zero with
      | .ok out => .ok out.decoded
      | .fail error => .fail error
      | .panics => .panics := by
  have total : (ascii "HEP3" ++
      (putUint16 (UInt16.ofNat (6 + rest.length)) ++ rest)).length = 6 + rest.length := by
    rw [length_append, length_append, putUint16_length, magic_length]
    omega
  have magic := slice_middle [] (ascii "HEP3") (putUint16 (UInt16.ofNat (6 + rest.length)) ++ rest)
  have length := slice_middle (ascii "HEP3") (putUint16 (UInt16.ofNat (6 + rest.length))) rest
  simp only [nil_append, length_nil, Nat.zero_add, magic_length, putUint16_length,
    Nat.reduceAdd] at magic length
  have stored : (UInt16.ofNat (6 + rest.length)).toNat = 6 + rest.length :=
    UInt16.toNat_ofNat_of_lt fits
  rw [decode, if_neg (by omega)]
  simp only [magic, length, uint16_putUint16, total, stored, ne_eq, not_true_eq_false]
  generalize decodeFrom _ _ _ = result
  cases result <;> rfl

theorem decode_packetOf (fits : (packetOf chunks).length < 65536) :
    decode (packetOf chunks) = .ok (fieldsOf chunks).decoded := by
  have loop := decodeFrom_body
    (ascii "HEP3" ++ putUint16 (UInt16.ofNat (6 + (bodyOf chunks).length))) chunks .zero
  rw [append_assoc, length_append, magic_length, putUint16_length] at loop
  rw [packetOf_length] at fits
  rw [packetOf, decode_header _ fits, loop]
  rfl

theorem decode_total :
    (∃ error, decode p = .fail error) ∨ ∃ chunks, WellFormed p chunks := by
  by_cases short : p.length < 6
  · exact .inl ⟨_, by rw [decode, if_pos short]⟩
  obtain ⟨a, b, c, d, k, l, rest, rfl⟩ := exists_six p short
  have magicSlice : slice (a :: b :: c :: d :: k :: l :: rest) 0 4 = some [a, b, c, d] :=
    slice_middle [] [a, b, c, d] (k :: l :: rest)
  have lengthSlice : slice (a :: b :: c :: d :: k :: l :: rest) 4 6 = some [k, l] :=
    slice_middle [a, b, c, d] [k, l] rest
  by_cases magic : [a, b, c, d] = ascii "HEP3"
  swap
  · refine .inl ⟨.invalidHeader, ?_⟩
    rw [decode, if_neg short]
    simp [magicSlice, lengthSlice, ne_eq, magic, not_false_eq_true]
  by_cases total : (uint16 [k, l]).toNat = (a :: b :: c :: d :: k :: l :: rest).length
  swap
  · refine .inl ⟨.invalidLength (uint16 [k, l]).toNat
      (a :: b :: c :: d :: k :: l :: rest).length, ?_⟩
    rw [decode, if_neg short]
    simp only [magicSlice, lengthSlice, ne_eq, magic, total, not_true_eq_false,
      not_false_eq_true, if_true, if_false]
  have size : (uint16 [k, l]).toNat = 6 + rest.length := by
    simp only [length_cons] at total
    omega
  have fits : 6 + rest.length < 65536 := size ▸ (uint16 [k, l]).toNat_lt
  have header : a :: b :: c :: d :: k :: l :: rest =
      ascii "HEP3" ++ (putUint16 (UInt16.ofNat (6 + rest.length)) ++ rest) := by
    rw [← magic, ← size, UInt16.ofNat_toNat, put_uint16]
    rfl
  rw [header]
  obtain ⟨error, failed⟩ | ⟨chunks, rfl⟩ := decodeFrom_total
    (ascii "HEP3" ++ putUint16 (UInt16.ofNat (6 + rest.length))) rest .zero
  · refine .inl ⟨error, ?_⟩
    rw [append_assoc, length_append, magic_length, putUint16_length] at failed
    rw [decode_header _ fits, failed]
  · exact .inr ⟨chunks, rfl, by rw [← packetOf, packetOf_length]; exact fits⟩

theorem decode_ok_iff (out : Decoded) :
    decode p = .ok out ↔ ∃ chunks, WellFormed p chunks ∧ out = (fieldsOf chunks).decoded := by
  constructor
  · intro accepted
    obtain ⟨error, failed⟩ | ⟨chunks, rfl, fits⟩ := decode_total p
    · rw [failed] at accepted
      cases accepted
    · rw [decode_packetOf chunks fits] at accepted
      cases accepted
      exact ⟨chunks, ⟨rfl, fits⟩, rfl⟩
  · rintro ⟨chunks, ⟨rfl, fits⟩, rfl⟩
    exact decode_packetOf chunks fits

/-! ### Which chunk decides a field -/

/-- The value of a chunk for a field of one byte. -/
def byteOf (chunkType : UInt16) (c : Chunk) : Option UInt8 :=
  if c.chunkType = chunkType then
    match c.payload with
    | [value] => some value
    | _ => none
  else none

/-- The value of a chunk for a field of two bytes. -/
def uint16Of (chunkType : UInt16) (c : Chunk) : Option UInt16 :=
  if c.chunkType = chunkType ∧ c.payload.length = 2 then some (uint16 c.payload) else none

/-- The value of a chunk for a field of four bytes. -/
def uint32Of (chunkType : UInt16) (c : Chunk) : Option UInt32 :=
  if c.chunkType = chunkType ∧ c.payload.length = 4 then some (uint32 c.payload) else none

/-- The value of a chunk for a field of any size. -/
def bytesOf (chunkTypes : List UInt16) (c : Chunk) : Option Bytes :=
  if c.chunkType ∈ chunkTypes then some c.payload else none

/-- The value of the last chunk that has one, or else `zero`. -/
def lastOf {α : Type} (value : Chunk → Option α) (chunks : List Chunk) (zero : α) : α :=
  (chunks.filterMap value).getLast?.getD zero

/-- The types that the `switch` has a case for. -/
def knownTypes : List UInt16 :=
  [chunkIPFamily, chunkIPProto, chunkIPv4Src, chunkIPv4Dst, chunkIPv6Src, chunkIPv6Dst,
    chunkSrcPort, chunkDstPort, chunkTimeSec, chunkTimeUsec, chunkProtoType, chunkCaptureID,
    chunkAuthKey, chunkPayload, chunkCorrelationID]

/-- Every field of a result has the value of the last chunk for it, or is zero.  The time
has two chunks, for its seconds and its microseconds. -/
structure ReadFrom (chunks : List Chunk) (out : Decoded) : Prop where
  ipFamily : out.ipFamily = lastOf (byteOf chunkIPFamily) chunks 0
  ipProtocol : out.ipProtocol = lastOf (byteOf chunkIPProto) chunks 0
  srcIP : out.srcIP = lastOf (bytesOf [chunkIPv4Src, chunkIPv6Src]) chunks []
  dstIP : out.dstIP = lastOf (bytesOf [chunkIPv4Dst, chunkIPv6Dst]) chunks []
  srcPort : out.srcPort = lastOf (uint16Of chunkSrcPort) chunks 0
  dstPort : out.dstPort = lastOf (uint16Of chunkDstPort) chunks 0
  time : out.time = unix (lastOf (uint32Of chunkTimeSec) chunks 0).toNat
    ((lastOf (uint32Of chunkTimeUsec) chunks 0).toNat * 1000)
  protoType : out.protoType = lastOf (byteOf chunkProtoType) chunks 0
  captureID : out.captureID = lastOf (uint32Of chunkCaptureID) chunks 0
  authKey : out.authKey = lastOf (bytesOf [chunkAuthKey]) chunks []
  correlationID : out.correlationID = lastOf (bytesOf [chunkCorrelationID]) chunks []
  payload : out.payload = lastOf (bytesOf [chunkPayload]) chunks []

/-- The `switch`, field by field. -/
theorem read_eq (c : Chunk) :
    out.read c =
      { ipFamily := (byteOf chunkIPFamily c).getD out.ipFamily
        ipProtocol := (byteOf chunkIPProto c).getD out.ipProtocol
        srcIP := (bytesOf [chunkIPv4Src, chunkIPv6Src] c).getD out.srcIP
        dstIP := (bytesOf [chunkIPv4Dst, chunkIPv6Dst] c).getD out.dstIP
        srcPort := (uint16Of chunkSrcPort c).getD out.srcPort
        dstPort := (uint16Of chunkDstPort c).getD out.dstPort
        sec := (uint32Of chunkTimeSec c).getD out.sec
        usec := (uint32Of chunkTimeUsec c).getD out.usec
        protoType := (byteOf chunkProtoType c).getD out.protoType
        captureID := (uint32Of chunkCaptureID c).getD out.captureID
        authKey := (bytesOf [chunkAuthKey] c).getD out.authKey
        correlationID := (bytesOf [chunkCorrelationID] c).getD out.correlationID
        payload := (bytesOf [chunkPayload] c).getD out.payload } := by
  obtain ⟨vendor, chunkType, payload, fits⟩ := c
  by_cases known : chunkType ∈ knownTypes
  · simp only [knownTypes, mem_cons, not_mem_nil, or_false] at known
    obtain rfl | rfl | rfl | rfl | rfl | rfl | rfl | rfl | rfl | rfl | rfl | rfl | rfl | rfl | rfl :=
      known
    all_goals
      simp [Fields.read, Fields.assign, byteOf, bytesOf, uint16Of, uint32Of, chunkIPFamily,
        chunkIPProto, chunkIPv4Src, chunkIPv4Dst, chunkIPv6Src, chunkIPv6Dst, chunkSrcPort,
        chunkDstPort, chunkTimeSec, chunkTimeUsec, chunkProtoType, chunkCaptureID, chunkAuthKey,
        chunkPayload, chunkCorrelationID]
    -- what is left are the cases with a condition on the size
    all_goals
      first
      | split <;> rfl
      | obtain _ | ⟨value, _ | ⟨_, _⟩⟩ := payload <;> rfl
  · simp only [knownTypes, mem_cons, not_mem_nil, or_false, not_or] at known
    simp [Fields.read, Fields.assign, byteOf, bytesOf, uint16Of, uint32Of, known]

/-- A variable of the loop that every round overwrites with the chunk's value, if it has
one, ends with the value of the last chunk that has one. -/
theorem foldl_last {α : Type} (value : Chunk → Option α) (field : Fields → α)
    (round : ∀ out c, field (read out c) = (value c).getD (field out))
    (chunks : List Chunk) (out : Fields) :
    field (chunks.foldl read out) = lastOf value chunks (field out) := by
  induction chunks using List.reverseRecOn with
  | nil => rfl
  | append_singleton seen c ih =>
    rw [foldl_append, foldl_cons, foldl_nil, round, ih, lastOf,
      lastOf, filterMap_append]
    cases admitted : value c with
    | none | some v => simp [admitted]

theorem fieldsOf_readFrom :
    ReadFrom chunks (fieldsOf chunks).decoded where
  ipFamily := foldl_last _ ipFamily (fun out c => by rw [read_eq]) chunks .zero
  ipProtocol := foldl_last _ ipProtocol (fun out c => by rw [read_eq]) chunks .zero
  srcIP := foldl_last _ srcIP (fun out c => by rw [read_eq]) chunks .zero
  dstIP := foldl_last _ dstIP (fun out c => by rw [read_eq]) chunks .zero
  srcPort := foldl_last _ srcPort (fun out c => by rw [read_eq]) chunks .zero
  dstPort := foldl_last _ dstPort (fun out c => by rw [read_eq]) chunks .zero
  time := by
    have seconds := foldl_last (uint32Of chunkTimeSec) sec
      (fun out c => by rw [read_eq]) chunks .zero
    have microseconds := foldl_last (uint32Of chunkTimeUsec) usec
      (fun out c => by rw [read_eq]) chunks .zero
    rw [decoded, fieldsOf, seconds, microseconds]
    rfl
  protoType := foldl_last _ protoType (fun out c => by rw [read_eq]) chunks .zero
  captureID := foldl_last _ captureID (fun out c => by rw [read_eq]) chunks .zero
  authKey := foldl_last _ authKey (fun out c => by rw [read_eq]) chunks .zero
  correlationID := foldl_last _ correlationID (fun out c => by rw [read_eq]) chunks .zero
  payload := foldl_last _ payload (fun out c => by rw [read_eq]) chunks .zero

/-! ### Chunks of unknown type -/

/-- `more` is `chunks` with chunks of unknown type put in anywhere. -/
inductive Inserted : List Chunk → List Chunk → Prop where
  | nil : Inserted [] []
  | keep {chunks more : List Chunk} (c : Chunk) (rest : Inserted chunks more) :
      Inserted (c :: chunks) (c :: more)
  | unknown {chunks more : List Chunk} (c : Chunk) (type : c.chunkType ∉ knownTypes)
      (rest : Inserted chunks more) : Inserted chunks (c :: more)

theorem Inserted.foldl_read (inserted : Inserted chunks more)
    (out : Fields) : more.foldl Fields.read out = chunks.foldl Fields.read out := by
  induction inserted generalizing out with
  | nil => rfl
  | keep c rest ih => exact ih (out.read c)
  | unknown c type rest ih =>
    simp only [knownTypes, mem_cons, not_mem_nil, or_false, not_or] at type
    have same : out.read c = out := by simp [Fields.read, Fields.assign, type]
    rw [foldl_cons, same]
    exact ih out

/-- `Decode` reads nothing outside the packet and returns; it accepts exactly the packets
that consist of chunks; every field is that of the last chunk for it; and chunks of unknown
type change nothing. -/
theorem decode_accepts_exactly (p : Bytes) :
    (decode p).Returns ∧
    ((∃ out, decode p = .ok out) ↔ ∃ chunks, WellFormed p chunks) ∧
    ∀ chunks, WellFormed p chunks → ∀ out, decode p = .ok out →
      ReadFrom chunks out ∧
      ∀ more q, Inserted chunks more → WellFormed q more → decode q = .ok out := by
  refine ⟨?_, ?_, ?_⟩
  · obtain ⟨error, failed⟩ | ⟨chunks, rfl, fits⟩ := decode_total p
    · rw [failed]
      trivial
    · rw [decode_packetOf chunks fits]
      trivial
  · constructor
    · rintro ⟨out, accepted⟩
      obtain ⟨chunks, formed, -⟩ := (decode_ok_iff p out).mp accepted
      exact ⟨chunks, formed⟩
    · rintro ⟨chunks, formed⟩
      exact ⟨_, (decode_ok_iff p _).mpr ⟨chunks, formed, rfl⟩⟩
  · rintro chunks ⟨rfl, fits⟩ out accepted
    rw [decode_packetOf chunks fits] at accepted
    cases accepted
    refine ⟨fieldsOf_readFrom chunks, ?_⟩
    rintro more q inserted ⟨rfl, moreFits⟩
    rw [decode_packetOf more moreFits, fieldsOf, inserted.foldl_read]
    rfl

/-- Two source ports, of which the second is decoded, and the same packet with a chunk of
unknown type between them. -/
theorem second_port_decoded :
    let first : Chunk := ⟨0, chunkSrcPort, [0x13, 0xC4], by decide⟩
    let second : Chunk := ⟨7, chunkSrcPort, [0x13, 0xC6], by decide⟩
    let other : Chunk := ⟨0, 0x00FF, [1, 2, 3], by decide⟩
    ∃ out, decode (packetOf [first, second]) = .ok out ∧ out.srcPort = 5062 ∧
      decode (packetOf [first, other, second]) = .ok out := by
  intro first second other
  have formed : WellFormed (packetOf [first, second]) [first, second] := ⟨rfl, by decide⟩
  have exact := decode_accepts_exactly (packetOf [first, second])
  obtain ⟨out, accepted⟩ := exact.2.1.mpr ⟨_, formed⟩
  obtain ⟨read, inserted⟩ := exact.2.2 _ formed out accepted
  refine ⟨out, accepted, read.srcPort.trans (by decide), ?_⟩
  exact inserted [first, other, second] _
    (.keep first (.unknown other (by decide) (.keep second .nil))) ⟨rfl, by decide⟩

end Gossipper.Hep
