/-
Module: Gossipper.Hep.RoundTrip
Purpose: What `Decode` makes of a packet that `Encode` returned.
Trusted boundary: none
Main exports: decode_encoded, SameMessage, RoundTrips, round_trips_iff
-/
import Gossipper.Hep.Wellformed

namespace Gossipper.Hep

open Go List Option

/-! ### Addresses -/

variable {ip : IP}

theorem to4_of_short (short : ip.length = 4) : to4 ip = some ip := by
  rw [to4, if_pos short]

theorem to16_of_long (long : ip.length = 16) : to16 ip = some ip := by
  rw [to16, if_neg (by omega), if_pos long]

theorem to16_of_short (short : ip.length = 4) : to16 ip = some (v4InV6Prefix ++ ip) := by
  rw [to16, if_pos short]

theorem to4_eq_some (long : ip.length = 16) (short : to4 ip = some v4) :
    v4.length = 4 ∧ ip = v4InV6Prefix ++ v4 := by
  rw [to4, if_neg (by omega)] at short
  split at short
  · rename_i mapped
    cases short
    refine ⟨by rw [length_drop]; omega, ?_⟩
    rw [← mapped.2, take_append_drop]
  · cases short

theorem IP.equal_self (ip : IP) : ip.equal ip = true := by
  rw [IP.equal, if_pos rfl]
  exact beq_self_eq_true ip

theorem IP.equal_mapped {v4 : IP} (short : v4.length = 4) :
    v4.equal (v4InV6Prefix ++ v4) = true := by
  have long : (v4InV6Prefix ++ v4).length = 16 := by
    rw [length_append, short]
    rfl
  rw [IP.equal, if_neg (by omega), if_pos ⟨short, long⟩]
  exact beq_self_eq_true _

theorem IP.equal_nil (long : ip.length = 16) : IP.equal [] ip = false := by
  rw [IP.equal, if_neg (by simp [long]), if_neg (by simp), if_neg (by simp)]

section Parsed

variable {net : Resolver} {raw : Bytes} {ip : IP}

theorem parseIP_v4 (parsed : net.parseIP raw = some ip) (short : to4 ip = some v4) :
    parseIP net raw = .ok (v4, ipFamilyIPv4) := by
  simp [parseIP, parsed, some_or, short]

theorem parseIP_v6 (parsed : net.parseIP raw = some ip) (long : to4 ip = none) :
    parseIP net raw = .ok (ip, ipFamilyIPv6) := by
  simp [parseIP, parsed, some_or, long, to16_of_long (net.parseIP_length raw ip parsed)]

end Parsed

/-! ### The chunks of a message -/

/-- The types and payloads that `Encode` writes, in its order. -/
def itemsOf (msg : Message) (srcIP dstIP : IP) (family : UInt8) : List (UInt16 × Bytes) :=
  [(chunkIPFamily, [family]), (chunkIPProto, [msg.ipProtocol])] ++
  (if family = ipFamilyIPv6 then
    [(chunkIPv6Src, (to16 srcIP).getD []), (chunkIPv6Dst, (to16 dstIP).getD [])]
  else
    [(chunkIPv4Src, (to4 srcIP).getD []), (chunkIPv4Dst, (to4 dstIP).getD [])]) ++
  [(chunkSrcPort, putUint16 (UInt16.ofNat msg.srcPort.toNat)),
    (chunkDstPort, putUint16 (UInt16.ofNat msg.dstPort.toNat)),
    (chunkTimeSec, putUint32 (UInt32.ofNat (msg.time.seconds % 2 ^ 32).toNat)),
    (chunkTimeUsec, putUint32 (UInt32.ofNat (msg.time.nanoseconds / 1000))),
    (chunkProtoType, [msg.protoType]), (chunkCaptureID, putUint32 msg.captureID)] ++
  (if msg.authKey ≠ [] then [(chunkAuthKey, msg.authKey)] else []) ++
  (if msg.correlationID ≠ [] then [(chunkCorrelationID, msg.correlationID)] else []) ++
  [(chunkPayload, msg.payload)]

variable (msg : Message) (srcIP dstIP : IP) (family : UInt8)

theorem encodeChunks_eq :
    encodeChunks msg srcIP dstIP family =
      (itemsOf msg srcIP dstIP family).flatMap fun item => writeChunkBytes item.1 item.2 := by
  simp [encodeChunks, itemsOf, flatMap_append, flatMap_cons, flatMap_nil, append_nil,
    writeChunkUint8, writeChunkUint16, writeChunkUint32,
    apply_ite (List.flatMap fun item : UInt16 × Bytes => writeChunkBytes item.1 item.2),
    append_assoc]

theorem writeChunkBytes_length (chunkType : UInt16) (payload : Bytes) :
    (writeChunkBytes chunkType payload).length = payload.length + 6 := by
  simp only [writeChunkBytes, length_append, putUint16_length]
  omega

/-- What is written as one packet is a list of chunks, since each part of it fits. -/
theorem exists_chunks (items : List (UInt16 × Bytes))
    (fits : (items.flatMap fun item => writeChunkBytes item.1 item.2).length < 65536) :
    ∃ chunks, bodyOf chunks = (items.flatMap fun item => writeChunkBytes item.1 item.2) ∧
      ∀ out : Fields, chunks.foldl Fields.read out =
        items.foldl (fun out item => out.assign item.1 item.2) out := by
  induction items with
  | nil => exact ⟨[], rfl, fun out => rfl⟩
  | cons item rest ih =>
    rw [flatMap_cons, length_append, writeChunkBytes_length] at fits
    obtain ⟨chunks, body, fold⟩ := ih (by omega)
    refine ⟨⟨0, item.1, item.2, by omega⟩ :: chunks, ?_, ?_⟩
    · rw [bodyOf_cons, body, flatMap_cons]
      rfl
    · intro out
      rw [foldl_cons, foldl_cons, fold]
      rfl

/-- The result that the chunks of a message give. -/
def carried (msg : Message) (srcIP dstIP : IP) (family : UInt8) : Fields where
  ipFamily := family
  ipProtocol := msg.ipProtocol
  srcIP := if family = ipFamilyIPv6 then (to16 srcIP).getD [] else (to4 srcIP).getD []
  dstIP := if family = ipFamilyIPv6 then (to16 dstIP).getD [] else (to4 dstIP).getD []
  srcPort := UInt16.ofNat msg.srcPort.toNat
  dstPort := UInt16.ofNat msg.dstPort.toNat
  sec := UInt32.ofNat (msg.time.seconds % 2 ^ 32).toNat
  usec := UInt32.ofNat (msg.time.nanoseconds / 1000)
  protoType := msg.protoType
  captureID := msg.captureID
  authKey := msg.authKey
  correlationID := msg.correlationID
  payload := msg.payload

theorem foldl_itemsOf :
    (itemsOf msg srcIP dstIP family).foldl (fun out item => out.assign item.1 item.2) .zero =
      carried msg srcIP dstIP family := by
  simp only [itemsOf, foldl_append]
  split <;> split <;> split <;>
    simp_all [Fields.assign, chunkIPFamily, chunkIPProto, chunkIPv4Src, chunkIPv4Dst,
      chunkIPv6Src, chunkIPv6Dst, chunkSrcPort, chunkDstPort, chunkTimeSec, chunkTimeUsec,
      chunkProtoType, chunkCaptureID, chunkAuthKey, chunkPayload, chunkCorrelationID, carried,
      Fields.zero]

/-- A text that is written only if it is not empty. -/
def optionalSize (text : Bytes) : Nat :=
  if text ≠ [] then text.length + 6 else 0

/-- The bytes of a packet that do not depend on the addresses. -/
def fixedSize (msg : Message) : Nat :=
  91 + optionalSize msg.authKey + optionalSize msg.correlationID + msg.payload.length

theorem encodeChunks_length :
    6 + (encodeChunks msg srcIP dstIP family).length =
      fixedSize msg + (carried msg srcIP dstIP family).srcIP.length +
        (carried msg srcIP dstIP family).dstIP.length := by
  simp only [encodeChunks, fixedSize, optionalSize, carried, writeChunkUint8, writeChunkUint16,
    writeChunkUint32, length_append]
  split <;> split <;> split <;>
    simp only [length_append, length_cons, length_nil, writeChunkBytes_length,
      putUint16_length, putUint32_length] <;>
    omega

/-! ### Encoding, then decoding -/

/-- A message as the round trip takes it: its addresses are read by `net.ParseIP`, its
ports are ports, and its time fits 32 bits of seconds. -/
structure Sendable (net : Resolver) (msg : Message) (src dst : IP) : Prop where
  source : net.parseIP msg.srcIP = some src
  destination : net.parseIP msg.dstIP = some dst
  srcPort : 0 ≤ msg.srcPort ∧ msg.srcPort ≤ 65535
  dstPort : 0 ≤ msg.dstPort ∧ msg.dstPort ≤ 65535
  time : 0 ≤ msg.time.seconds ∧ msg.time.seconds < 2 ^ 32

/-- The result has the contents of the message. -/
structure SameMessage (msg : Message) (src dst : IP) (out : Decoded) : Prop where
  srcIP : out.srcIP.equal src = true
  dstIP : out.dstIP.equal dst = true
  srcPort : (out.srcPort.toNat : Int) = msg.srcPort
  dstPort : (out.dstPort.toNat : Int) = msg.dstPort
  ipProtocol : out.ipProtocol = msg.ipProtocol
  protoType : out.protoType = msg.protoType
  captureID : out.captureID = msg.captureID
  authKey : out.authKey = msg.authKey
  correlationID : out.correlationID = msg.correlationID
  payload : out.payload = msg.payload
  time : out.time = msg.time.truncate

/-- Whatever packet `Encode` returns for the message, `Decode` gives the message back. -/
def RoundTrips (net : Resolver) (now : UnixTime) (msg : Message) (src dst : IP) : Prop :=
  ∀ packet, encode net now msg = .ok packet →
    ∃ out, decode packet = .ok out ∧ SameMessage msg src dst out

section Sendable

variable {net : Resolver} {now : UnixTime} {msg : Message} {src dst srcIP dstIP : IP}
  {family other : UInt8}

/-- For a sendable message `Encode` fails only by the size of the packet, and `Decode`
reads what the chunks carry. -/
theorem decode_encoded (now : UnixTime) (sendable : Sendable net msg src dst)
    (source : parseIP net msg.srcIP = .ok (srcIP, family))
    (destination : parseIP net msg.dstIP = .ok (dstIP, other)) :
    (65535 < 6 + (encodeChunks msg srcIP dstIP family).length ∧
      ∀ packet, encode net now msg ≠ .ok packet) ∨
    (6 + (encodeChunks msg srcIP dstIP family).length ≤ 65535 ∧
      ∃ packet, encode net now msg = .ok packet ∧
        decode packet = .ok (carried msg srcIP dstIP family).decoded) := by
  have srcPort : ¬ (msg.srcPort < 0 ∨ 65535 < msg.srcPort) := by
    have := sendable.srcPort
    omega
  have dstPort : ¬ (msg.dstPort < 0 ∨ 65535 < msg.dstPort) := by
    have := sendable.dstPort
    omega
  have zero : msg.time.isZero = false := by
    have start := sendable.time.1
    rw [UnixTime.isZero, Bool.and_eq_false_iff]
    left
    rw [beq_eq_false_iff_ne]
    omega
  have result : encode net now msg =
      if 65535 < 6 + (encodeChunks msg srcIP dstIP family).length then
        .error (.tooLarge (6 + (encodeChunks msg srcIP dstIP family).length))
      else .ok (ascii "HEP3" ++
        (putUint16 (UInt16.ofNat (6 + (encodeChunks msg srcIP dstIP family).length)) ++
          encodeChunks msg srcIP dstIP family)) := by
    simp [encode, source, destination, if_neg srcPort, if_neg dstPort, zero, Bool.false_eq_true]
  rw [result]
  by_cases large : 65535 < 6 + (encodeChunks msg srcIP dstIP family).length
  · rw [if_pos large]
    exact .inl ⟨large, fun packet returned => by cases returned⟩
  · rw [if_neg large]
    refine .inr ⟨by omega, _, rfl, ?_⟩
    obtain ⟨chunks, body, fold⟩ := exists_chunks (itemsOf msg srcIP dstIP family) (by
      rw [← encodeChunks_eq]
      omega)
    rw [← encodeChunks_eq] at body
    rw [← body] at large ⊢
    have accepted := decode_packetOf chunks (by rw [packetOf_length]; omega)
    rw [fieldsOf, fold, foldl_itemsOf] at accepted
    exact accepted

theorem unix_truncate {t : UnixTime} (start : 0 ≤ t.seconds) (bound : t.seconds < 2 ^ 32) :
    unix (UInt32.ofNat (t.seconds % 2 ^ 32).toNat).toNat
      ((UInt32.ofNat (t.nanoseconds / 1000)).toNat * 1000) = t.truncate := by
  have small := t.nanoseconds_lt
  have seconds : (UInt32.ofNat (t.seconds % 2 ^ 32).toNat).toNat = t.seconds.toNat := by
    rw [UInt32.toNat_ofNat']
    omega
  have microseconds : (UInt32.ofNat (t.nanoseconds / 1000)).toNat = t.nanoseconds / 1000 := by
    rw [UInt32.toNat_ofNat']
    omega
  simp only [unix, UnixTime.truncate, seconds, microseconds, UnixTime.mk.injEq]
  constructor <;> omega

/-- The fields besides the addresses come back from every packet. -/
theorem sameMessage_iff (sendable : Sendable net msg src dst) :
    SameMessage msg src dst (carried msg srcIP dstIP family).decoded ↔
      (carried msg srcIP dstIP family).srcIP.equal src = true ∧
        (carried msg srcIP dstIP family).dstIP.equal dst = true := by
  constructor
  · intro same
    exact ⟨same.srcIP, same.dstIP⟩
  · rintro ⟨sameSource, sameDestination⟩
    have port (p : Int) (range : 0 ≤ p ∧ p ≤ 65535) : ((UInt16.ofNat p.toNat).toNat : Int) = p := by
      rw [UInt16.toNat_ofNat']
      omega
    exact {
      srcIP := sameSource
      dstIP := sameDestination
      srcPort := port _ sendable.srcPort
      dstPort := port _ sendable.dstPort
      ipProtocol := rfl
      protoType := rfl
      captureID := rfl
      authKey := rfl
      correlationID := rfl
      payload := rfl
      time := unix_truncate sendable.time.1 sendable.time.2 }

/-- The round trip is decided by the size of the packet and the two addresses. -/
theorem roundTrips_of_parsed (sendable : Sendable net msg src dst)
    (source : parseIP net msg.srcIP = .ok (srcIP, family))
    (destination : parseIP net msg.dstIP = .ok (dstIP, other)) :
    RoundTrips net now msg src dst ↔
      ((carried msg srcIP dstIP family).srcIP.equal src = true ∧
        (carried msg srcIP dstIP family).dstIP.equal dst = true) ∨
      65535 < 6 + (encodeChunks msg srcIP dstIP family).length := by
  obtain ⟨large, refused⟩ | ⟨small, packet, returned, read⟩ :=
    decode_encoded now sendable source destination
  · exact iff_of_true (fun packet returned => absurd returned (refused packet)) (.inr large)
  · rw [← sameMessage_iff sendable]
    constructor
    · intro holds
      obtain ⟨out, accepted, same⟩ := holds packet returned
      rw [read] at accepted
      cases accepted
      exact .inl same
    · rintro (same | large) other again
      · rw [returned] at again
        cases again
        exact ⟨_, read, same⟩
      · omega

/-- The round trip holds for every message that does not have an IPv4 source with an IPv6
destination, and for those only if the packet is too large to be returned: the family of both
addresses is taken from the source. -/
theorem round_trips_iff (sendable : Sendable net msg src dst) :
    RoundTrips net now msg src dst ↔
      ¬ ((to4 src).isSome ∧ (to4 dst).isNone) ∨ 65535 < fixedSize msg + 4 := by
  have srcLength := net.parseIP_length _ _ sendable.source
  have dstLength := net.parseIP_length _ _ sendable.destination
  cases srcForm : to4 src with
  | none =>
    -- an IPv6 source: both addresses are written in their long form
    have source := parseIP_v6 sendable.source srcForm
    refine iff_of_true ?_ (.inl (by simp))
    cases dstForm : to4 dst with
    | none =>
      rw [roundTrips_of_parsed sendable source (parseIP_v6 sendable.destination dstForm)]
      simp [carried, to16_of_long srcLength, to16_of_long dstLength, getD_some, IP.equal_self,
        and_self, true_or]
    | some v4 =>
      obtain ⟨short, mapped⟩ := to4_eq_some dstLength dstForm
      rw [roundTrips_of_parsed sendable source (parseIP_v4 sendable.destination dstForm)]
      simp [carried, to16_of_long srcLength, to16_of_short short, getD_some, ← mapped,
        IP.equal_self, and_self, true_or]
  | some srcV4 =>
    -- an IPv4 source: both addresses are written in their short form
    have source := parseIP_v4 sendable.source srcForm
    obtain ⟨srcShort, srcMapped⟩ := to4_eq_some srcLength srcForm
    have srcEqual : srcV4.equal src = true := srcMapped ▸ IP.equal_mapped srcShort
    have family : ipFamilyIPv4 ≠ ipFamilyIPv6 := by decide
    cases dstForm : to4 dst with
    | none =>
      rw [roundTrips_of_parsed sendable source (parseIP_v6 sendable.destination dstForm),
        encodeChunks_length]
      simp [carried, family, to4_of_short srcShort, dstForm, IP.equal_nil dstLength, srcShort]
    | some dstV4 =>
      obtain ⟨dstShort, dstMapped⟩ := to4_eq_some dstLength dstForm
      have dstEqual : dstV4.equal dst = true := dstMapped ▸ IP.equal_mapped dstShort
      rw [roundTrips_of_parsed sendable source (parseIP_v4 sendable.destination dstForm)]
      simp [carried, family, to4_of_short srcShort, to4_of_short dstShort, srcEqual, dstEqual]

end Sendable

/-! ### Two addresses -/

section Concrete

def shortIP : IP := v4InV6Prefix ++ [10, 0, 0, 1]

def longIP : IP := [0x20, 0x01, 0x0D, 0xB8, 0, 0, 0, 0, 0, 0, 0, 0, 0, 0, 0, 1]

/-- A resolver that knows one address of each family. -/
def twoAddresses : Resolver where
  parseIP raw :=
    if raw = ascii "10.0.0.1" then some shortIP
    else if raw = ascii "2001:db8::1" then some longIP
    else none
  resolveIPAddr _ := none
  parseIP_length raw ip parsed := by
    split at parsed
    · cases parsed
      decide
    · split at parsed
      · cases parsed
        decide
      · cases parsed

/-- Half a second past the first second of 2024. -/
def sampleTime : UnixTime := ⟨1704067200, 500000123, by decide⟩

/-- A SIP request between two addresses. -/
def request (srcIP dstIP : Bytes) : Message where
  time := sampleTime
  srcIP := srcIP
  dstIP := dstIP
  srcPort := 5060
  dstPort := 5062
  ipProtocol := 17
  protoType := 1
  captureID := 2001
  authKey := []
  correlationID := ascii "call-1"
  payload := ascii "OPTIONS"

/-- An IPv6 source with an IPv4 destination. -/
theorem request_to_short_round_trips :
    RoundTrips twoAddresses sampleTime (request (ascii "2001:db8::1") (ascii "10.0.0.1"))
      longIP shortIP :=
  (round_trips_iff ⟨by decide, by decide, by decide, by decide, by decide⟩).mpr (.inl (by decide))

/-- An IPv4 source with an IPv6 destination: the packet is returned and accepted, and has
no destination. -/
theorem request_to_long_lost :
    ∃ src dst packet out,
      Sendable twoAddresses (request (ascii "10.0.0.1") (ascii "2001:db8::1")) src dst ∧
      encode twoAddresses sampleTime (request (ascii "10.0.0.1") (ascii "2001:db8::1")) =
        .ok packet ∧
      decode packet = .ok out ∧ out.dstIP = [] ∧ ¬ out.dstIP.equal dst = true ∧
      ¬ RoundTrips twoAddresses sampleTime (request (ascii "10.0.0.1") (ascii "2001:db8::1"))
        src dst := by
  have sendable : Sendable twoAddresses (request (ascii "10.0.0.1") (ascii "2001:db8::1"))
      shortIP longIP := ⟨by decide, by decide, by decide, by decide, by decide⟩
  have source : parseIP twoAddresses (ascii "10.0.0.1") = .ok ([10, 0, 0, 1], ipFamilyIPv4) :=
    parseIP_v4 sendable.source (by decide)
  have destination : parseIP twoAddresses (ascii "2001:db8::1") = .ok (longIP, ipFamilyIPv6) :=
    parseIP_v6 sendable.destination (by decide)
  obtain ⟨large, -⟩ | ⟨-, packet, returned, read⟩ :=
    decode_encoded sampleTime sendable source destination
  · rw [encodeChunks_length] at large
    exact absurd large (by decide)
  · have different : ¬ IP.equal [] longIP = true := by decide
    refine ⟨shortIP, longIP, packet, _, sendable, returned, read, rfl, different, ?_⟩
    intro holds
    obtain ⟨out, accepted, same⟩ := holds packet returned
    rw [read] at accepted
    cases accepted
    exact different same.dstIP

end Concrete

end Gossipper.Hep
