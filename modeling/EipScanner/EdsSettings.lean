/-
This file compares the settings that a connection of an EDS is converted to with what its
entry allows. The entry gives the packet interval of a direction with limits, and it
advertises in two masks which transport classes, triggers, connection types, priorities
and kinds of size the device has.

The conversion stays within both as long as it takes what the entry offers. It goes
beyond them where it falls back to a value of its own: ten milliseconds where the entry
has neither a default interval nor a minimum, and the last choice of a group of bits of
which none is set. Only for the transport class and the connection type an empty group is
refused.
-/

import EipScanner.Eds

namespace EipScanner

namespace EdsConnection

variable {connection : EdsConnection} {config : ConnectionConfig} {shift fixedBit : UInt32}
  {entry : EdsDirection} {made : Direction} {name : String}

/-! ### The parts of a conversion -/

/-- The packet interval that is chosen for a direction, in microseconds. -/
def chosenRpi (rpi : Option EdsRpi) : UInt32 :=
  (rpi.bind fun rpi => rpi.default.or rpi.min).getD 10000

/-- What a direction is converted to. -/
theorem configDirection_eq_ok_iff :
    connection.configDirection shift fixedBit entry name = .ok made ↔
      ∃ connectionType, connection.connectionType shift name = .ok connectionType ∧
        made = {
          size := UInt16.ofNat entry.size
          rpi := (chosenRpi entry.rpi).toNat * 1000
          connectionType
          priority :=
            if bit connection.connectionParams (26 + shift) then .scheduled
            else if bit connection.connectionParams (25 + shift) then .high
            else .low
          sizeType := if bit connection.connectionParams fixedBit then .fixed else .variable
          runIdleHeader :=
            (connection.connectionParams >>> (8 + shift)) &&& 0x7 == formatHeader } := by
  rw [configDirection, bind_eq_ok_iff]
  refine exists_congr fun connectionType => and_congr_right fun _ => ?_
  exact ⟨fun same => (Except.ok.inj same).symm, congrArg Except.ok ∘ Eq.symm⟩

/-- The parts of a conversion that succeeds. -/
theorem toConnectionConfig_eq_ok_iff :
    connection.toConnectionConfig = .ok config ↔
      ∃ transportClass o2t t2o, connection.transportClass = .ok transportClass ∧
        connection.configDirection 0 0 connection.o2t "O->T" = .ok o2t ∧
        connection.configDirection 4 2 connection.t2o "T->O" = .ok t2o ∧
        config = { ConnectionConfig.new connection.path o2t t2o with
          transportClass, trigger := connection.trigger } := by
  rw [toConnectionConfig]
  simp only [bind_eq_ok_iff]
  constructor
  · rintro ⟨transportClass, hasClass, o2t, madeO2t, t2o, madeT2o, same⟩
    exact ⟨transportClass, o2t, t2o, hasClass, madeO2t, madeT2o, (Except.ok.inj same).symm⟩
  · rintro ⟨transportClass, o2t, t2o, hasClass, madeO2t, madeT2o, rfl⟩
    exact ⟨transportClass, hasClass, o2t, madeO2t, t2o, madeT2o, rfl⟩

/-! ### Packet intervals -/

/-- The default interval is within the limits, where they are given. -/
def DefaultWithin (rpi : Option EdsRpi) : Prop :=
  ∀ given ∈ rpi, ∀ default ∈ given.default,
    (∀ least ∈ given.min, least ≤ default) ∧ ∀ most ∈ given.max, default ≤ most

/-- An interval, in nanoseconds, is not below the minimum and not above the maximum. -/
def RpiWithin (rpi : Option EdsRpi) (interval : Nat) : Prop :=
  ∀ given ∈ rpi, (∀ least ∈ given.min, least.toNat * 1000 ≤ interval) ∧
    ∀ most ∈ given.max, interval ≤ most.toNat * 1000

/-- The entry has a default interval, or a minimum that is not above its maximum, or neither a
default nor a minimum and no maximum below ten milliseconds. -/
def OffersRpi (rpi : Option EdsRpi) : Prop :=
  ∀ given ∈ rpi, given.default.isSome = true ∨
    (∃ least, given.min = some least ∧ ∀ most ∈ given.max, least ≤ most) ∨
    given.min = none ∧ ∀ most ∈ given.max, 10000 ≤ most

/-- An interval is within the limits when it is so in microseconds. -/
theorem rpiWithin_chosen_iff {given : EdsRpi} {chosen : UInt32} :
    RpiWithin (some given) (chosen.toNat * 1000) ↔
      (∀ least ∈ given.min, least ≤ chosen) ∧ ∀ most ∈ given.max, chosen ≤ most := by
  have scaled : ∀ first second : UInt32, first.toNat * 1000 ≤ second.toNat * 1000 ↔
      first ≤ second := by
    intro first second
    rw [UInt32.le_iff_toNat_le]
    omega
  unfold RpiWithin
  simp only [Option.mem_def, Option.some.injEq, forall_eq', scaled]

/-- What is chosen for a direction whose default is within the limits is within them too exactly
when the entry offers an interval. -/
theorem rpiWithin_iff {rpi : Option EdsRpi} (defaultWithin : DefaultWithin rpi) :
    RpiWithin rpi ((chosenRpi rpi).toNat * 1000) ↔ OffersRpi rpi := by
  cases rpi with
  | none => exact iff_of_true (by simp [RpiWithin]) (by simp [OffersRpi])
  | some given =>
    rw [rpiWithin_chosen_iff]
    have within := defaultWithin given rfl
    simp only [OffersRpi, Option.mem_def, Option.some.injEq, forall_eq']
    cases default : given.default with
    | some value =>
      have chosen : chosenRpi (some given) = value := by
        simp [chosenRpi, default]
      rw [chosen]
      exact iff_of_true (within value default) (Or.inl rfl)
    | none =>
      cases least : given.min with
      | some value =>
        have chosen : chosenRpi (some given) = value := by
          simp [chosenRpi, default, least]
        rw [chosen]
        simp
      | none =>
        have chosen : chosenRpi (some given) = 10000 := by
          simp [chosenRpi, default, least]
        rw [chosen]
        simp

/-- Packet intervals and their limits. For every connection that is converted and each of its
directions whose default interval, if it has one, is within the limits, the interval in the
settings is within the limits exactly when the entry offers one: a default, or a minimum that is
not above its maximum, or neither of these and no maximum below ten milliseconds. -/
theorem rpi_within_limits_iff (accepted : connection.toConnectionConfig = .ok config) :
    (DefaultWithin connection.o2t.rpi →
        (RpiWithin connection.o2t.rpi config.o2t.rpi ↔ OffersRpi connection.o2t.rpi)) ∧
      (DefaultWithin connection.t2o.rpi →
        (RpiWithin connection.t2o.rpi config.t2o.rpi ↔ OffersRpi connection.t2o.rpi)) := by
  obtain ⟨_, o2t, t2o, -, madeO2t, madeT2o, rfl⟩ := toConnectionConfig_eq_ok_iff.mp accepted
  obtain ⟨_, -, rfl⟩ := configDirection_eq_ok_iff.mp madeO2t
  obtain ⟨_, -, rfl⟩ := configDirection_eq_ok_iff.mp madeT2o
  exact ⟨rpiWithin_iff, rpiWithin_iff⟩

/-- Without a default interval there is none outside the limits. -/
theorem defaultWithin_of_none {least most : Option UInt32} :
    DefaultWithin (some ⟨least, most, none⟩) := by
  intro given isGiven default isDefault
  obtain rfl := Option.some.inj isGiven
  cases isDefault

/-- A connection that is sent every five milliseconds at the latest, in both directions. -/
def fastConnection : EdsConnection where
  number := 1
  name := "Fast".toList
  help := []
  triggerTransport := 0x10002
  connectionParams := 0x11440405
  o2t := ⟨some ⟨none, some 5000, none⟩, 4, none⟩
  t2o := ⟨some ⟨some 1000, some 5000, none⟩, 4, none⟩
  configAssembly := none
  path := ⟨[0x20, 0x04]⟩

/-- It is converted to one that is sent every ten milliseconds to the target. -/
theorem rpi_above_maximum :
    ∃ config, fastConnection.toConnectionConfig = .ok config ∧ config.o2t.rpi = 10000 * 1000 ∧
      DefaultWithin fastConnection.o2t.rpi ∧
      ¬ RpiWithin fastConnection.o2t.rpi config.o2t.rpi := by
  refine ⟨_, rfl, rfl, defaultWithin_of_none, fun within => ?_⟩
  exact absurd ((within _ rfl).2 5000 rfl) (by decide)

theorem rpi_within_limits_fast :
    ∃ config, fastConnection.toConnectionConfig = .ok config ∧
      (RpiWithin fastConnection.o2t.rpi config.o2t.rpi ↔ OffersRpi fastConnection.o2t.rpi) ∧
      (RpiWithin fastConnection.t2o.rpi config.t2o.rpi ↔ OffersRpi fastConnection.t2o.rpi) :=
  ⟨_, rfl, (rpi_within_limits_iff rfl).1 defaultWithin_of_none,
    (rpi_within_limits_iff rfl).2 defaultWithin_of_none⟩

/-! ### Advertised options -/

/-- The bit of the first mask for a transport class. -/
def classPlace : TransportClass → UInt32
  | .class0 => 0
  | .class1 => 1
  | .class2 => 2
  | .class3 => 3

/-- The bit of the first mask for a trigger. -/
def triggerPlace : Trigger → UInt32
  | .cyclic => 16
  | .changeOfState => 17
  | .application => 18

/-- The bit of the second mask for a connection type from originator to target. -/
def typePlace : ConnectionType → UInt32
  | .null => 16
  | .multicast => 17
  | .pointToPoint => 18
  | .reserved => 19

/-- The bit of the second mask for a priority from originator to target. -/
def priorityPlace : Priority → UInt32
  | .low => 24
  | .high => 25
  | .scheduled => 26
  | .urgent => 27

/-- The bit for a kind of size, counted from the first of its direction. -/
def sizePlace : SizeType → UInt32
  | .fixed => 0
  | .variable => 1

/-- The settings of a direction are advertised by the second mask, in which its groups of bits are
shifted: point-to-point is taken if it is there, and the run/idle header is used exactly where the
format says so. -/
structure DirectionAdvertised (params shift fixedBit : UInt32) (made : Direction) : Prop where
  connectionType : bit params (typePlace made.connectionType + shift) = true
  priority : bit params (priorityPlace made.priority + shift) = true
  sizeType : bit params (sizePlace made.sizeType + fixedBit) = true
  pointToPoint : bit params (18 + shift) = true → made.connectionType = .pointToPoint
  runIdleHeader : made.runIdleHeader = true ↔ (params >>> (8 + shift)) &&& 0x7 = formatHeader

/-- The settings of a connection are advertised by its masks. -/
structure Advertised (connection : EdsConnection) (config : ConnectionConfig) : Prop where
  transportClass : bit connection.triggerTransport (classPlace config.transportClass) = true
  trigger : bit connection.triggerTransport (triggerPlace config.trigger) = true
  o2t : DirectionAdvertised connection.connectionParams 0 0 config.o2t
  t2o : DirectionAdvertised connection.connectionParams 4 2 config.t2o

/-- One bit of a group is set. -/
def Offers (mask : UInt32) (places : List UInt32) : Prop := ∃ place ∈ places, bit mask place = true

/-- Transport classes and connection types that can be used are advertised. -/
structure OffersUsable (connection : EdsConnection) : Prop where
  transportClass : Offers connection.triggerTransport [0, 1]
  o2tType : Offers connection.connectionParams [16, 18]
  t2oType : Offers connection.connectionParams [16 + 4, 18 + 4]

/-- Triggers, priorities and kinds of size are advertised. -/
structure OffersRest (connection : EdsConnection) : Prop where
  trigger : Offers connection.triggerTransport [16, 17, 18]
  o2tPriority : Offers connection.connectionParams [24, 25, 26]
  t2oPriority : Offers connection.connectionParams [24 + 4, 25 + 4, 26 + 4]
  o2tSize : Offers connection.connectionParams [0, 1]
  t2oSize : Offers connection.connectionParams [2, 3]

/-- The conversion uses advertised options only: what it succeeds with is advertised, and it is
refused if any group has nothing to use. -/
def UsesAdvertised (connection : EdsConnection) : Prop :=
  (∀ config, connection.toConnectionConfig = .ok config → Advertised connection config) ∧
    (¬ (OffersUsable connection ∧ OffersRest connection) →
      ∃ refused, connection.toConnectionConfig = .error refused)

section Groups

variable {params : UInt32} {mask : UInt32}

theorem transportClass_advertised {transportClass : TransportClass}
    (has : connection.transportClass = .ok transportClass) :
    bit connection.triggerTransport (classPlace transportClass) = true := by
  unfold EdsConnection.transportClass at has
  split at has
  next one =>
    obtain rfl := Except.ok.inj has
    exact one
  · split at has
    next zero =>
      obtain rfl := Except.ok.inj has
      exact zero
    · cases has

/-- A transport class is found where one is advertised that can be used. -/
theorem transportClass_ok_iff :
    (∃ transportClass, connection.transportClass = .ok transportClass) ↔
      Offers connection.triggerTransport [0, 1] := by
  unfold EdsConnection.transportClass Offers
  cases one : bit connection.triggerTransport 1 <;>
    cases zero : bit connection.triggerTransport 0 <;> simp [one, zero]

theorem connectionType_ok_iff :
    (∃ connectionType, connection.connectionType shift name = .ok connectionType) ↔
      Offers connection.connectionParams [16 + shift, 18 + shift] := by
  unfold EdsConnection.connectionType Offers
  cases pointToPoint : bit connection.connectionParams (18 + shift) <;>
    cases null : bit connection.connectionParams (16 + shift) <;> simp [pointToPoint, null]

theorem connectionType_advertised {connectionType : ConnectionType}
    (has : connection.connectionType shift name = .ok connectionType) :
    bit connection.connectionParams (typePlace connectionType + shift) = true ∧
      (bit connection.connectionParams (18 + shift) = true → connectionType = .pointToPoint) := by
  unfold EdsConnection.connectionType at has
  split at has
  next pointToPoint =>
    obtain rfl := Except.ok.inj has
    exact ⟨pointToPoint, fun _ => rfl⟩
  next notPointToPoint =>
    split at has
    next null =>
      obtain rfl := Except.ok.inj has
      exact ⟨null, fun pointToPoint => absurd pointToPoint notPointToPoint⟩
    · cases has

/-- The trigger that is chosen is advertised if one is. -/
theorem trigger_advertised_iff :
    bit connection.triggerTransport (triggerPlace connection.trigger) = true ↔
      Offers connection.triggerTransport [16, 17, 18] := by
  unfold EdsConnection.trigger Offers
  cases cyclic : bit connection.triggerTransport 16 <;>
    cases changeOfState : bit connection.triggerTransport 17 <;>
      cases application : bit connection.triggerTransport 18 <;>
        simp [cyclic, changeOfState, application, triggerPlace]

/-- The priority that is chosen is advertised if one is. -/
theorem priority_advertised_iff :
    bit params (priorityPlace (if bit params (26 + shift) then .scheduled
        else if bit params (25 + shift) then .high else .low) + shift) = true ↔
      Offers params [24 + shift, 25 + shift, 26 + shift] := by
  unfold Offers
  cases scheduled : bit params (26 + shift) <;> cases high : bit params (25 + shift) <;>
    simp [scheduled, high, priorityPlace]

/-- The kind of size that is chosen is advertised if one is. -/
theorem sizeType_advertised_iff :
    bit params (sizePlace (if bit params fixedBit then .fixed else .variable) + fixedBit) = true ↔
      Offers params [fixedBit, 1 + fixedBit] := by
  unfold Offers
  cases fixed : bit params fixedBit <;> simp [fixed, sizePlace]

/-- The settings of a direction are advertised if a priority and a kind of size are. -/
theorem direction_advertised_iff
    (converted : connection.configDirection shift fixedBit entry name = .ok made) :
    DirectionAdvertised connection.connectionParams shift fixedBit made ↔
      Offers connection.connectionParams [24 + shift, 25 + shift, 26 + shift] ∧
        Offers connection.connectionParams [fixedBit, 1 + fixedBit] := by
  obtain ⟨connectionType, has, rfl⟩ := configDirection_eq_ok_iff.mp converted
  obtain ⟨advertised, preferred⟩ := connectionType_advertised has
  rw [← priority_advertised_iff, ← sizeType_advertised_iff]
  exact ⟨fun all => ⟨all.priority, all.sizeType⟩,
    fun both => ⟨advertised, both.1, both.2, preferred, beq_iff_eq⟩⟩

/-- A conversion succeeds where transport classes and connection types are advertised that can be
used. -/
theorem toConnectionConfig_ok_iff :
    (∃ config, connection.toConnectionConfig = .ok config) ↔ OffersUsable connection := by
  constructor
  · rintro ⟨config, accepted⟩
    obtain ⟨_, _, _, hasClass, madeO2t, madeT2o, -⟩ := toConnectionConfig_eq_ok_iff.mp accepted
    obtain ⟨_, hasO2t, -⟩ := configDirection_eq_ok_iff.mp madeO2t
    obtain ⟨_, hasT2o, -⟩ := configDirection_eq_ok_iff.mp madeT2o
    exact ⟨transportClass_ok_iff.mp ⟨_, hasClass⟩,
      (@connectionType_ok_iff connection 0 "O->T").mp ⟨_, hasO2t⟩,
      connectionType_ok_iff.mp ⟨_, hasT2o⟩⟩
  · rintro ⟨offersClass, offersO2t, offersT2o⟩
    obtain ⟨_, hasClass⟩ := transportClass_ok_iff.mpr offersClass
    obtain ⟨_, hasO2t⟩ := (@connectionType_ok_iff connection 0 "O->T").mpr offersO2t
    obtain ⟨_, hasT2o⟩ := (@connectionType_ok_iff connection 4 "T->O").mpr offersT2o
    exact ⟨_, toConnectionConfig_eq_ok_iff.mpr ⟨_, _, _, hasClass,
      configDirection_eq_ok_iff.mpr ⟨_, hasO2t, rfl⟩,
      configDirection_eq_ok_iff.mpr ⟨_, hasT2o, rfl⟩, rfl⟩⟩

/-- What a conversion succeeds with is advertised if triggers, priorities and kinds of size are. -/
theorem advertised_iff (accepted : connection.toConnectionConfig = .ok config) :
    Advertised connection config ↔ OffersRest connection := by
  obtain ⟨_, _, _, hasClass, madeO2t, madeT2o, rfl⟩ := toConnectionConfig_eq_ok_iff.mp accepted
  have o2t := direction_advertised_iff madeO2t
  have t2o := direction_advertised_iff madeT2o
  have trigger := @trigger_advertised_iff connection
  constructor
  · rintro ⟨-, advertisedTrigger, advertisedO2t, advertisedT2o⟩
    exact ⟨trigger.mp advertisedTrigger, (o2t.mp advertisedO2t).1, (t2o.mp advertisedT2o).1,
      (o2t.mp advertisedO2t).2, (t2o.mp advertisedT2o).2⟩
  · rintro ⟨offersTrigger, o2tPriority, t2oPriority, o2tSize, t2oSize⟩
    exact ⟨transportClass_advertised hasClass, trigger.mpr offersTrigger,
      o2t.mpr ⟨o2tPriority, o2tSize⟩, t2o.mpr ⟨t2oPriority, t2oSize⟩⟩

end Groups

/-- Advertised options. For all masks and all other fields, a conversion uses advertised options
only exactly when there is no transport class or no connection type that can be used, so that it is
refused, or when a trigger, a priority for each direction and a kind of size for each direction are
advertised. -/
theorem usesAdvertised_iff (connection : EdsConnection) :
    UsesAdvertised connection ↔ ¬ OffersUsable connection ∨ OffersRest connection := by
  have succeeds := @toConnectionConfig_ok_iff connection
  unfold UsesAdvertised
  cases outcome : connection.toConnectionConfig with
  | error refused =>
    rw [outcome] at succeeds
    have notUsable : ¬ OffersUsable connection := fun usable => by simpa using succeeds.mpr usable
    exact iff_of_true ⟨by simp, fun _ => ⟨refused, rfl⟩⟩ (Or.inl notUsable)
  | ok config =>
    have usable := succeeds.mp ⟨config, outcome⟩
    have advertised := advertised_iff outcome
    simp [usable, advertised]

/-- The fast connection without the bits of its priorities. -/
def withoutPriority : EdsConnection := { fastConnection with connectionParams := 0x00440405 }

/-- It is converted to one of low priority, which is not advertised. -/
theorem not_usesAdvertised :
    (∃ config, withoutPriority.toConnectionConfig = .ok config ∧ config.o2t.priority = .low ∧
      bit withoutPriority.connectionParams (priorityPlace .low) = false) ∧
      ¬ UsesAdvertised withoutPriority := by
  have converted : ∃ config, withoutPriority.toConnectionConfig = .ok config ∧
      config.o2t.priority = .low ∧
        bit withoutPriority.connectionParams (priorityPlace .low) = false := ⟨_, rfl, rfl, rfl⟩
  refine ⟨converted, fun uses => ?_⟩
  obtain ⟨config, accepted, low, notOffered⟩ := converted
  have advertised := (uses.1 config accepted).o2t.priority
  rw [low] at advertised
  exact Bool.false_ne_true (notOffered.symm.trans advertised)

end EdsConnection

end EipScanner
