/-
This file models the reading of a device's identity object in a request, and compares it with
discovery. A device says the same of itself in both: in the reply to the request, and behind the
protocol version and the address in its ListIdentity item.

The two are read by different functions. On every byte string they agree, in what they accept, in
what they read and in how they fail.
-/

import EipScanner.Discovery
import EipScanner.Exchange

namespace EipScanner

namespace IdentityObject

def classId : UInt16 := 0x01

/-- The attributes of an identity in the reply to a request. -/
def take (instanceId : UInt16) (buf : Bytes) : Except Error (IdentityObject × Bytes) := do
  let (vendorId, buf) ← tryGetU16 buf
  let (deviceType, buf) ← tryGetU16 buf
  let (productCode, buf) ← tryGetU16 buf
  let (revision, buf) ← CipRevision.decode buf
  let (status, buf) ← tryGetU16 buf
  let (serialNumber, buf) ← tryGetU32 buf
  let (productName, buf) ← tryGetShortString buf
  return ({
    instanceId, vendorId, deviceType, productCode, revision, status, serialNumber,
    productName }, buf)

/-- Reads all attributes with Get_Attributes_All. -/
def read {Device : Type} (session : Session Device) (router : MessageRouter)
    (instanceId : UInt16) : Dialogue Device Error IdentityObject := do
  let data ← router.ask session .getAttributeAll (EPath.ofInstance classId instanceId) []
    "read identity object"
  let (identity, _) ← take instanceId data
  return identity

/-! ### Agreement with discovery -/

/-- The instance that was asked for is kept, and nothing else depends on it. -/
theorem take_instanceId (instanceId other : UInt16) (buf : Bytes) :
    take instanceId buf =
      (fun taken => ({ taken.1 with instanceId }, taken.2)) <$> take other buf := by
  simp only [take, map_bind, map_pure]

/-- The size of the protocol version and the address. -/
def announcedFront : Nat := 2 + sockaddrSize

/-- Behind the protocol version and the address, discovery reads the attributes. -/
theorem takeIdentity_behind {front : Bytes} (size : front.length = announcedFront)
    (body : Bytes) :
    ∃ address, takeIdentity (front ++ body) =
      (fun taken => (⟨taken.1, address⟩, taken.2)) <$> take 1 body := by
  have version : 2 ≤ (front ++ body).length := by
    rw [List.length_append, size, announcedFront]
    omega
  have behindVersion : (front ++ body).drop 2 = front.drop 2 ++ body :=
    List.drop_append_of_le_length (by rw [size, announcedFront]; omega)
  have rest : (front.drop 2).length = sockaddrSize := by
    rw [List.length_drop, size, announcedFront, Nat.add_sub_cancel_left]
  have enough : ¬ (front.drop 2 ++ body).length < sockaddrSize := by
    rw [List.length_append, rest]
    omega
  have behindAddress : (front.drop 2 ++ body).drop sockaddrSize = body := List.drop_left' rest
  obtain ⟨address, decoded⟩ : ∃ address, decodeSockaddr (front.drop 2 ++ body) = .ok address :=
    ⟨_, if_neg enough⟩
  refine ⟨address, ?_⟩
  rw [takeIdentity, tryGetU16, tryGetInt_of_le UInt16.ofNat version, ok_bind, getInt,
    behindVersion]
  dsimp only
  rw [takeSockaddr, decoded, ok_bind, behindAddress]
  simp only [take, map_bind, map_pure]
  rfl

/-- Reading an identity and discovering it agree. Whatever bytes a device answers the request with,
the outcome is the one of the same bytes in a ListIdentity item, behind any protocol version and
any address: the same identity, under the instance that was asked for, or the same error. -/
theorem read_eq_discovered {Device : Type} {session : Session Device} {router : MessageRouter}
    (instanceId : UInt16) {body : Bytes} {device next : Device}
    (answers : MessageRouter.Answers session router
      ⟨.getAttributeAll, EPath.ofInstance classId instanceId, [], body⟩ device next)
    {front : Bytes} (size : front.length = announcedFront) :
    read session router instanceId device =
      ((identityItem ⟨CommonPacketItemId.listIdentity, front ++ body⟩).map fun item =>
        { item.identity with instanceId }, next) := by
  obtain ⟨address, behind⟩ := takeIdentity_behind size body
  rw [read, Dialogue.bind_of_ok (answers.ask _), identityItem, behind, take_instanceId _ 1]
  cases taken : take 1 body with
  | error refused => rfl
  | ok identity => rfl

/-- An identity with a name of five bytes. -/
theorem read_eq_discovered_drive :
    read MessageRouter.mockSession MessageRouter.new 7
        [[1, 0, 2, 0, 3, 0, 4, 5, 0x30, 0, 0x78, 0x56, 0x34, 0x12, 1, 0x44]] =
      ((identityItem ⟨CommonPacketItemId.listIdentity, List.replicate 18 0 ++
          [1, 0, 2, 0, 3, 0, 4, 5, 0x30, 0, 0x78, 0x56, 0x34, 0x12, 1, 0x44]⟩).map fun item =>
        { item.identity with instanceId := 7 }, []) :=
  read_eq_discovered 7 (MessageRouter.answers_mockSession MessageRouter.new
    (Nat.zero_le _) (by decide) []) rfl

end IdentityObject

end EipScanner
