/-
This file models the encapsulation layer: the packet with its 24-byte header, its
encoder and decoder, and the function that reads the data length out of a header so
that a receiver knows how many bytes follow. The length field has 16 bits, so only
a packet of at most 65535 data bytes survives encoding; such a packet is a frame,
and the type of frames carries the bound.
-/

import Mathlib.Data.List.GetD
import EipScanner.Buf

namespace EipScanner

def headerSize : Nat := 24

/-- Encapsulation command code. -/
structure EncapsCommand where
  code : UInt16
  deriving DecidableEq, Repr

namespace EncapsCommand

def listIdentity : EncapsCommand := ⟨0x0063⟩
def registerSession : EncapsCommand := ⟨0x0065⟩
def unRegisterSession : EncapsCommand := ⟨0x0066⟩
def sendRrData : EncapsCommand := ⟨0x006F⟩

end EncapsCommand

/-- Encapsulation packet: header fields followed by command data. -/
structure EncapsPacket where
  command : EncapsCommand
  sessionHandle : UInt32
  status : EncapsStatus
  senderContext : Vector UInt8 8
  options : UInt32
  data : Bytes
  deriving DecidableEq

namespace EncapsPacket

def new (command : EncapsCommand) (sessionHandle : UInt32) (data : Bytes) : EncapsPacket where
  command := command
  sessionHandle := sessionHandle
  status := EncapsStatus.success
  senderContext := Vector.replicate 8 0
  options := 0
  data := data

/-- Register Session with protocol version 1 and no options. -/
def registerSession : EncapsPacket := new EncapsCommand.registerSession 0 [1, 0, 0, 0]

def unregisterSession (sessionHandle : UInt32) : EncapsPacket :=
  new EncapsCommand.unRegisterSession sessionHandle []

/-- SendRRData with interface handle 0 and the given timeout (seconds). -/
def sendRrData (sessionHandle : UInt32) (timeout : UInt16) (cpf : Bytes) : EncapsPacket :=
  new EncapsCommand.sendRrData sessionHandle (putU32 0 ++ (putU16 timeout ++ cpf))

def listIdentity : EncapsPacket := new EncapsCommand.listIdentity 0 []

def encode (packet : EncapsPacket) : Bytes :=
  putU16 packet.command.code ++ (putU16 (UInt16.ofNat packet.data.length) ++
    (putU32 packet.sessionHandle ++ (putU32 packet.status.code ++
      (packet.senderContext.toList ++ (putU32 packet.options ++ packet.data)))))

/-- Decodes a complete packet; the data length must match the header. -/
def decode (data : Bytes) : Except Error EncapsPacket :=
  if data.length < headerSize then
    .error (.invalidPacket
      s!"encapsulation header must be {headerSize} bytes, got {data.length}")
  else
    let (command, buf) := getU16 data
    let (length, buf) := getU16 buf
    let (sessionHandle, buf) := getU32 buf
    let (status, buf) := getU32 buf
    let senderContext := Vector.ofFn fun index : Fin 8 => buf.getD index 0
    let (options, buf) := getU32 (buf.drop 8)
    if buf.length ≠ length.toNat then
      .error (.invalidPacket
        s!"encapsulation data must be {length.toNat} bytes, got {buf.length}")
    else
      .ok { command := ⟨command⟩, sessionHandle, status := ⟨status⟩, senderContext, options
            data := buf }

/-- The length field has room for the length of the data. -/
def Fits (packet : EncapsPacket) : Prop := packet.data.length < 2 ^ 16

theorem fits_registerSession : registerSession.Fits := show 4 < 2 ^ 16 by decide

theorem fits_unregisterSession (sessionHandle : UInt32) : (unregisterSession sessionHandle).Fits :=
  show 0 < 2 ^ 16 by decide

/-- Data length field of an encoded header. -/
def lengthFromHeader (header : Bytes) : Nat := LittleEndian.number ((header.drop 2).take 2)

theorem length_encode (packet : EncapsPacket) :
    packet.encode.length = headerSize + packet.data.length := by
  simp only [encode, List.length_append, length_putU16, length_putU32, Vector.length_toList,
    headerSize]
  omega

/-- The header announces the length of the data, as far as the field has room for it. -/
theorem lengthFromHeader_encode (packet : EncapsPacket) :
    lengthFromHeader (packet.encode.take headerSize) = packet.data.length % 2 ^ 16 := by
  have field : ((packet.encode.take headerSize).drop 2).take 2 =
      putU16 (UInt16.ofNat packet.data.length) := by
    rw [List.drop_take, List.take_take, encode, List.drop_left' (length_putU16 _)]
    exact List.take_left' (length_putU16 _)
  rw [lengthFromHeader, field, putU16, LittleEndian.number_digits_of_lt (UInt16.toNat_lt _),
    UInt16.toNat_ofNat']

/-- The data stand behind the header. -/
theorem drop_encode (packet : EncapsPacket) : packet.encode.drop headerSize = packet.data := by
  let header := putU16 packet.command.code ++ (putU16 (UInt16.ofNat packet.data.length) ++
    (putU32 packet.sessionHandle ++ (putU32 packet.status.code ++
      (packet.senderContext.toList ++ putU32 packet.options))))
  have length : header.length = headerSize := by
    simp only [header, List.length_append, length_putU16, length_putU32, Vector.length_toList,
      headerSize]
  have split : packet.encode = header ++ packet.data := by
    simp only [header, encode, List.append_assoc]
  rw [split]
  exact List.drop_left' length

end EncapsPacket

/-! ### Frames -/

/-- A packet whose data length fits the length field of the header. -/
structure Frame where
  packet : EncapsPacket
  fits : packet.data.length < 2 ^ 16

namespace Frame

def bytes (frame : Frame) : Bytes := frame.packet.encode

theorem length_bytes (frame : Frame) :
    frame.bytes.length = headerSize + frame.packet.data.length :=
  frame.packet.length_encode

/-- The header of a frame announces exactly the data that follows it. -/
theorem lengthFromHeader_bytes (frame : Frame) :
    EncapsPacket.lengthFromHeader (frame.bytes.take headerSize) = frame.packet.data.length :=
  frame.packet.lengthFromHeader_encode.trans (Nat.mod_eq_of_lt frame.fits)

theorem senderContext_read (context : Vector UInt8 8) (rest : Bytes) :
    (Vector.ofFn fun index : Fin 8 => (context.toList ++ rest).getD index 0) = context := by
  refine Vector.ext fun index bound => ?_
  have inside : index < context.toList.length := by rwa [Vector.length_toList]
  rw [Vector.getElem_ofFn, List.getD_append _ _ _ _ inside, List.getD_eq_getElem _ _ inside,
    Vector.getElem_toList]

/-- Decoding a frame's bytes gives its packet back. -/
theorem decode_bytes (frame : Frame) : EncapsPacket.decode frame.bytes = .ok frame.packet := by
  have long : ¬ frame.bytes.length < headerSize := by
    rw [length_bytes]
    omega
  have value : (UInt16.ofNat frame.packet.data.length).toNat = frame.packet.data.length :=
    UInt16.toNat_ofNat_of_lt' frame.fits
  have skip (rest : Bytes) : (frame.packet.senderContext.toList ++ rest).drop 8 = rest :=
    List.drop_left' frame.packet.senderContext.length_toList
  rw [EncapsPacket.decode, if_neg long, bytes, EncapsPacket.encode]
  simp only [getU16_putU16, getU32_putU32, senderContext_read, skip, value, ne_eq,
    not_true_eq_false, if_false]

end Frame

end EipScanner
