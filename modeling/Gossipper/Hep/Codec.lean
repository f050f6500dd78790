/-
Module: Gossipper.Hep.Codec
Purpose: Encoding and decoding of HEP3 packets, after `hepcodec/codec.go`.
Trusted boundary: `net.ParseIP` and `net.ResolveIPAddr` are parameters; of the first only
  the length of its result is used
Main exports: Resolver, to4, to16, IP.equal, Message, Decoded, encode, decode
-/
import Gossipper.Go.Bytes

namespace Gossipper.Hep

open Go

/-! ### Addresses and times -/

/-- A `net.IP`: four bytes or sixteen, or none of both. -/
abbrev IP := Bytes

/-- The first twelve bytes of an IPv4 address in its long form. -/
def v4InV6Prefix : Bytes :=
  [0, 0, 0, 0, 0, 0, 0, 0, 0, 0, 0xFF, 0xFF]

/-- `IP.To4`. -/
def to4 (ip : IP) : Option IP :=
  if ip.length = 4 then some ip
  else if ip.length = 16 ∧ ip.take 12 = v4InV6Prefix then some (ip.drop 12)
  else none

/-- `IP.To16`. -/
def to16 (ip : IP) : Option IP :=
  if ip.length = 4 then some (v4InV6Prefix ++ ip)
  else if ip.length = 16 then some ip
  else none

/-- `IP.Equal`: an IPv4 address and the same address in its long form are equal. -/
def IP.equal (ip x : IP) : Bool :=
  if ip.length = x.length then ip == x
  else if ip.length = 4 ∧ x.length = 16 then x == v4InV6Prefix ++ ip
  else if ip.length = 16 ∧ x.length = 4 then ip == v4InV6Prefix ++ x
  else false

/-- The functions of package `net` that read an address.  `net.ParseIP` returns the long
form of every address. -/
structure Resolver where
  parseIP : Bytes → Option IP
  resolveIPAddr : Bytes → Option IP
  parseIP_length : ∀ raw ip, parseIP raw = some ip → ip.length = 16

/-- A `time.Time` in UTC, by its Unix time. -/
@[ext] structure UnixTime where
  seconds : Int
  nanoseconds : Nat
  nanoseconds_lt : nanoseconds < 10 ^ 9

instance instDecidableEqUnixTime : DecidableEq UnixTime := fun s t =>
  decidable_of_iff (s.seconds = t.seconds ∧ s.nanoseconds = t.nanoseconds) UnixTime.ext_iff.symm

/-- `time.Unix` of seconds and nanoseconds that are not negative. -/
def unix (seconds nanoseconds : Nat) : UnixTime where
  seconds := seconds + nanoseconds / 10 ^ 9
  nanoseconds := nanoseconds % 10 ^ 9
  nanoseconds_lt := Nat.mod_lt _ (by decide)

/-- `Time.IsZero`: the first instant of year one. -/
def UnixTime.isZero (t : UnixTime) : Bool :=
  t.seconds == -62135596800 && t.nanoseconds == 0

/-- A time without the part below a microsecond. -/
def UnixTime.truncate (t : UnixTime) : UnixTime where
  seconds := t.seconds
  nanoseconds := t.nanoseconds / 1000 * 1000
  nanoseconds_lt := Nat.lt_of_le_of_lt (Nat.div_mul_le_self _ _) t.nanoseconds_lt

/-! ### Packets -/

def ipFamilyIPv4 : UInt8 := 0x02
def ipFamilyIPv6 : UInt8 := 0x0A

def chunkIPFamily : UInt16 := 0x0001
def chunkIPProto : UInt16 := 0x0002
def chunkIPv4Src : UInt16 := 0x0003
def chunkIPv4Dst : UInt16 := 0x0004
def chunkIPv6Src : UInt16 := 0x0005
def chunkIPv6Dst : UInt16 := 0x0006
def chunkSrcPort : UInt16 := 0x0007
def chunkDstPort : UInt16 := 0x0008
def chunkTimeSec : UInt16 := 0x0009
def chunkTimeUsec : UInt16 := 0x000A
def chunkProtoType : UInt16 := 0x000B
def chunkCaptureID : UInt16 := 0x000C
def chunkAuthKey : UInt16 := 0x000E
def chunkPayload : UInt16 := 0x000F
def chunkCorrelationID : UInt16 := 0x0011

/-- `Message`. -/
structure Message where
  time : UnixTime
  srcIP : Bytes
  dstIP : Bytes
  srcPort : Int
  dstPort : Int
  ipProtocol : UInt8
  protoType : UInt8
  captureID : UInt32
  authKey : Bytes
  correlationID : Bytes
  payload : Bytes

/-- `Decoded`. -/
structure Decoded where
  ipFamily : UInt8
  ipProtocol : UInt8
  srcIP : IP
  dstIP : IP
  srcPort : UInt16
  dstPort : UInt16
  time : UnixTime
  protoType : UInt8
  captureID : UInt32
  authKey : Bytes
  correlationID : Bytes
  payload : Bytes
deriving DecidableEq

/-! ### Encoding -/

/-- Why an address is not usable. -/
inductive IPError where
  | unresolved
  | unsupportedFamily
deriving DecidableEq, Repr

inductive EncodeError where
  | sourceIP (cause : IPError)
  | destinationIP (cause : IPError)
  | sourcePort (port : Int)
  | destinationPort (port : Int)
  | tooLarge (totalLen : Nat)
deriving DecidableEq, Repr

/-- `parseIP`: the shortest form of the address, and its family. -/
def parseIP (net : Resolver) (raw : Bytes) : Except IPError (IP × UInt8) :=
  match (net.parseIP raw).or (net.resolveIPAddr raw) with
  | none => .error .unresolved
  | some ip =>
    match to4 ip with
    | some v4 => .ok (v4, ipFamilyIPv4)
    | none =>
      match to16 ip with
      | some v6 => .ok (v6, ipFamilyIPv6)
      | none => .error .unsupportedFamily

/-- `writeChunkBytes`: the length is cut to sixteen bits. -/
def writeChunkBytes (chunkType : UInt16) (payload : Bytes) : Bytes :=
  putUint16 0 ++ (putUint16 chunkType ++ (putUint16 (UInt16.ofNat (payload.length + 6)) ++ payload))

/-- `writeChunkUint8`. -/
def writeChunkUint8 (chunkType : UInt16) (value : UInt8) : Bytes :=
  writeChunkBytes chunkType [value]

/-- `writeChunkUint16`. -/
def writeChunkUint16 (chunkType value : UInt16) : Bytes :=
  writeChunkBytes chunkType (putUint16 value)

/-- `writeChunkUint32`. -/
def writeChunkUint32 (chunkType : UInt16) (value : UInt32) : Bytes :=
  writeChunkBytes chunkType (putUint32 value)

/-- The chunks of a message, with both addresses in the family of the source.  An address
without a form in that family is `nil`, and is written without bytes. -/
def encodeChunks (msg : Message) (srcIP dstIP : IP) (family : UInt8) : Bytes :=
  writeChunkUint8 chunkIPFamily family ++
  writeChunkUint8 chunkIPProto msg.ipProtocol ++
  (if family = ipFamilyIPv6 then
    writeChunkBytes chunkIPv6Src ((to16 srcIP).getD []) ++
    writeChunkBytes chunkIPv6Dst ((to16 dstIP).getD [])
  else
    writeChunkBytes chunkIPv4Src ((to4 srcIP).getD []) ++
    writeChunkBytes chunkIPv4Dst ((to4 dstIP).getD [])) ++
  writeChunkUint16 chunkSrcPort (UInt16.ofNat msg.srcPort.toNat) ++
  writeChunkUint16 chunkDstPort (UInt16.ofNat msg.dstPort.toNat) ++
  writeChunkUint32 chunkTimeSec (UInt32.ofNat (msg.time.seconds % 2 ^ 32).toNat) ++
  writeChunkUint32 chunkTimeUsec (UInt32.ofNat (msg.time.nanoseconds / 1000)) ++
  writeChunkUint8 chunkProtoType msg.protoType ++
  writeChunkUint32 chunkCaptureID msg.captureID ++
  (if msg.authKey ≠ [] then writeChunkBytes chunkAuthKey msg.authKey else []) ++
  (if msg.correlationID ≠ [] then writeChunkBytes chunkCorrelationID msg.correlationID else []) ++
  writeChunkBytes chunkPayload msg.payload

/-- `Encode`, at the time `now`. -/
def encode (net : Resolver) (now : UnixTime) (msg : Message) : Except EncodeError Bytes :=
  match parseIP net msg.srcIP with
  | .error cause => .error (.sourceIP cause)
  | .ok (srcIP, family) =>
    match parseIP net msg.dstIP with
    | .error cause => .error (.destinationIP cause)
    | .ok (dstIP, _) =>
      if msg.srcPort < 0 ∨ 65535 < msg.srcPort then .error (.sourcePort msg.srcPort)
      else if msg.dstPort < 0 ∨ 65535 < msg.dstPort then .error (.destinationPort msg.dstPort)
      else
        let msg := if msg.time.isZero then { msg with time := now } else msg
        let chunks := encodeChunks msg srcIP dstIP family
        let totalLen := 6 + chunks.length
        if 65535 < totalLen then .error (.tooLarge totalLen)
        else .ok (ascii "HEP3" ++ (putUint16 (UInt16.ofNat totalLen) ++ chunks))

/-! ### Decoding -/

inductive DecodeError where
  | tooShort
  | invalidHeader
  | invalidLength (totalLen size : Nat)
  | truncatedChunk
  | invalidChunkLength
deriving DecidableEq, Repr

/-- The variables of the loop of `Decode`: the result without its time, and the two parts
of the time. -/
structure Fields where
  ipFamily : UInt8
  ipProtocol : UInt8
  srcIP : IP
  dstIP : IP
  srcPort : UInt16
  dstPort : UInt16
  sec : UInt32
  usec : UInt32
  protoType : UInt8
  captureID : UInt32
  authKey : Bytes
  correlationID : Bytes
  payload : Bytes
deriving DecidableEq

def Fields.zero : Fields where
  ipFamily := 0
  ipProtocol := 0
  srcIP := []
  dstIP := []
  srcPort := 0
  dstPort := 0
  sec := 0
  usec := 0
  protoType := 0
  captureID := 0
  authKey := []
  correlationID := []
  payload := []

/-- The `switch` over the type of a chunk. -/
def Fields.assign (out : Fields) (chunkType : UInt16) (payload : Bytes) : Fields :=
  if chunkType = chunkIPFamily then
    match payload with
    | [value] => { out with ipFamily := value }
    | _ => out
  else if chunkType = chunkIPProto then
    match payload with
    | [value] => { out with ipProtocol := value }
    | _ => out
  else if chunkType = chunkIPv4Src ∨ chunkType = chunkIPv6Src then { out with srcIP := payload }
  else if chunkType = chunkIPv4Dst ∨ chunkType = chunkIPv6Dst then { out with dstIP := payload }
  else if chunkType = chunkSrcPort then
    if payload.length = 2 then { out with srcPort := uint16 payload } else out
  else if chunkType = chunkDstPort then
    if payload.length = 2 then { out with dstPort := uint16 payload } else out
  else if chunkType = chunkTimeSec then
    if payload.length = 4 then { out with sec := uint32 payload } else out
  else if chunkType = chunkTimeUsec then
    if payload.length = 4 then { out with usec := uint32 payload } else out
  else if chunkType = chunkProtoType then
    match payload with
    | [value] => { out with protoType := value }
    | _ => out
  else if chunkType = chunkCaptureID then
    if payload.length = 4 then { out with captureID := uint32 payload } else out
  else if chunkType = chunkAuthKey then { out with authKey := payload }
  else if chunkType = chunkCorrelationID then { out with correlationID := payload }
  else if chunkType = chunkPayload then { out with payload := payload }
  else out

/-- The result behind the loop. -/
def Fields.decoded (out : Fields) : Decoded where
  ipFamily := out.ipFamily
  ipProtocol := out.ipProtocol
  srcIP := out.srcIP
  dstIP := out.dstIP
  srcPort := out.srcPort
  dstPort := out.dstPort
  time := unix out.sec.toNat (out.usec.toNat * 1000)
  protoType := out.protoType
  captureID := out.captureID
  authKey := out.authKey
  correlationID := out.correlationID
  payload := out.payload

/-- The loop of `Decode`.  Every slice expression is checked; a chunk has at least six
bytes, so the offset grows. -/
def decodeFrom (packet : Bytes) (offset : Nat) (out : Fields) : Outcome DecodeError Fields :=
  if offset < packet.length then
    match slice packet offset packet.length with
    | none => .panics
    | some rest =>
      if rest.length < 6 then .fail .truncatedChunk
      else
        match slice packet (offset + 2) (offset + 4), slice packet (offset + 4) (offset + 6) with
        | some typeBytes, some lengthBytes =>
          let chunkLen := (uint16 lengthBytes).toNat
          if _ : chunkLen < 6 ∨ packet.length < offset + chunkLen then
            .fail .invalidChunkLength
          else
            match slice packet (offset + 6) (offset + chunkLen) with
            | none => .panics
            | some payload =>
              decodeFrom packet (offset + chunkLen) (out.assign (uint16 typeBytes) payload)
        | _, _ => .panics
  else .ok out
termination_by packet.length - offset

/-- `Decode`. -/
def decode (packet : Bytes) : Outcome DecodeError Decoded :=
  if packet.length < 6 then .fail .tooShort
  else
    match slice packet 0 4, slice packet 4 6 with
    | some magic, some lengthBytes =>
      if magic ≠ ascii "HEP3" then .fail .invalidHeader
      else
        let totalLen := (uint16 lengthBytes).toNat
        if totalLen ≠ packet.length then .fail (.invalidLength totalLen packet.length)
        else
          match decodeFrom packet 6 .zero with
          | .ok out => .ok out.decoded
          | .fail error => .fail error
          | .panics => .panics
    | _, _ => .panics

end Gossipper.Hep
