import MeterSync.Proofs.Concurrency.Routine
import MeterSync.Proofs.Locality

/-!
# Accesses and what they touch

Everything that a coordinator shares is reached by single accesses: a count is raised, an intent is
settled or looked up, the shadow of a cell is shown or recorded, or a call is made. Each access
touches known places. It is told from what these places hold, leaves all others as they are, and
only adds to the counts, so accesses that touch no common place can change places.
-/

set_option autoImplicit false

namespace MeterSync

/-- The counts raised by those of a second list. -/
def Stats.plus (stats amount : Stats) : Stats where
  operations := stats.operations + amount.operations
  writesSubmitted := stats.writesSubmitted + amount.writesSubmitted
  writesSkipped := stats.writesSkipped + amount.writesSkipped
  writeFailures := stats.writeFailures + amount.writeFailures
  resolutionFailures := stats.resolutionFailures + amount.resolutionFailures
  reconciliations := stats.reconciliations + amount.reconciliations
  cellsReset := stats.cellsReset + amount.cellsReset
  resetFailures := stats.resetFailures + amount.resetFailures

namespace Stats

theorem zero_plus (stats : Stats) : zero.plus stats = stats := by
  simp only [plus, zero, Nat.zero_add]

theorem plus_assoc (first second third : Stats) :
    (first.plus second).plus third = first.plus (second.plus third) := by
  simp only [plus, Nat.add_assoc]

theorem plus_left_comm (first second third : Stats) :
    first.plus (second.plus third) = second.plus (first.plus third) := by
  simp only [plus, Nat.add_left_comm]

theorem plus_right_comm (stats first second : Stats) :
    (stats.plus first).plus second = (stats.plus second).plus first := by
  simp only [plus, Nat.add_right_comm]

end Stats

inductive Access where
  | count (amount : Stats)
  | settle (operation : Operation) (config : CellConfig)
  | intent (handle : CellHandle)
  | shown (handle : CellHandle)
  | record (handle : CellHandle) (config : CellConfig)
  | write (device : DeviceId) (entries : List Wire.Entry)
  | read (device : DeviceId) (wireIds : List UInt32)

@[reducible] def Access.Answer : Access → Type
  | .count _ => Unit
  | .settle _ _ => Unit
  | .intent _ => Option Intent
  | .shown _ => Option CellConfig
  | .record _ _ => Unit
  | .write _ _ => Except ClientError (List WriteStatus)
  | .read _ _ => Except ClientError (List Wire.Entry)

def Access.perform {Shadow Connection : Type} [ShadowStore Shadow] [Client Connection] :
    Handler Access.Answer (Coordinator Shadow Connection)
  | .count amount, coordinator => ((), coordinator.count (·.plus amount))
  | .settle operation config, coordinator =>
    ((), { coordinator with intents := coordinator.intents.settled operation config })
  | .intent handle, coordinator => (coordinator.intents.lookup handle, coordinator)
  | .shown handle, coordinator => (ShadowStore.find? coordinator.shadow handle, coordinator)
  | .record handle config, coordinator =>
    ((), { coordinator with shadow := ShadowStore.put coordinator.shadow handle config })
  | .write device entries, coordinator =>
    let answered := Client.write coordinator.connection device entries
    (answered.1, { coordinator with connection := answered.2 })
  | .read device wireIds, coordinator =>
    let answered := Client.read coordinator.connection device wireIds
    (answered.1, { coordinator with connection := answered.2 })

def Access.amount : Access → Stats
  | .count amount => amount
  | .settle _ _ => .zero
  | .intent _ => .zero
  | .shown _ => .zero
  | .record _ _ => .zero
  | .write _ _ => .zero
  | .read _ _ => .zero

/-! ## Places -/

/-- Where something is held for a cell: its intent, its shadow, or the cell of the device itself. -/
inductive Place where
  | intent (handle : CellHandle)
  | shown (handle : CellHandle)
  | cell (device : DeviceId) (wireId : UInt32) (index : Int64)

@[reducible] def Place.Content : Place → Type
  | .intent _ => Option Intent
  | .shown _ => Option CellConfig
  | .cell _ _ _ => Option Wire.Config

def Place.device : Place → DeviceId
  | .intent handle => handle.device
  | .shown handle => handle.device
  | .cell device _ _ => device

inductive Access.Touches : Access → Place → Prop where
  | settle (operation : Operation) (config : CellConfig) :
      Touches (.settle operation config) (.intent operation.meter.handle)
  | intent (handle : CellHandle) : Touches (.intent handle) (.intent handle)
  | shown (handle : CellHandle) : Touches (.shown handle) (.shown handle)
  | record (handle : CellHandle) (config : CellConfig) :
      Touches (.record handle config) (.shown handle)
  | write {device : DeviceId} {entries : List Wire.Entry} {entry : Wire.Entry} {index : Int64} :
      entry ∈ entries → entry.index = some index →
      Touches (.write device entries) (.cell device entry.meterId index)
  | read {device : DeviceId} {wireIds : List UInt32} {wireId : UInt32} (index : Int64) :
      wireId ∈ wireIds → Touches (.read device wireIds) (.cell device wireId index)

/-- The access touches nothing but the places of a region. -/
def Access.Inside (region : Place → Prop) (access : Access) : Prop :=
  ∀ place, access.Touches place → region place

theorem Access.Inside.mono {region wider : Place → Prop} {access : Access}
    (inside : access.Inside region) (included : ∀ place, region place → wider place) :
    access.Inside wider :=
  fun place touched => included place (inside place touched)

namespace Coordinator

def content (coordinator : Coordinator ShadowTable Simulator) : (place : Place) → place.Content
  | .intent handle => coordinator.intents.lookup handle
  | .shown handle => ShadowStore.find? coordinator.shadow handle
  | .cell device wireId index => coordinator.connection.cells device wireId index

/-- The coordinators have the same pipelines and devices, and some places hold the same. -/
structure AgreeOn (region : Place → Prop) (first second : Coordinator ShadowTable Simulator) :
    Prop where
  pipelines : first.pipelines = second.pipelines
  connection : first.connection.Alike second.connection
  contents : ∀ place, region place → first.content place = second.content place

theorem AgreeOn.refl (region : Place → Prop) (coordinator : Coordinator ShadowTable Simulator) :
    AgreeOn region coordinator coordinator :=
  ⟨rfl, .refl _, fun _ _ => rfl⟩

theorem AgreeOn.symm {region : Place → Prop} {first second : Coordinator ShadowTable Simulator}
    (agree : AgreeOn region first second) : AgreeOn region second first :=
  ⟨agree.pipelines.symm, agree.connection.symm, fun place inside =>
    (agree.contents place inside).symm⟩

theorem AgreeOn.trans {region : Place → Prop}
    {first second third : Coordinator ShadowTable Simulator}
    (left : AgreeOn region first second) (right : AgreeOn region second third) :
    AgreeOn region first third :=
  ⟨left.pipelines.trans right.pipelines, left.connection.trans right.connection,
    fun place inside => (left.contents place inside).trans (right.contents place inside)⟩

end Coordinator

/-! ## What accesses keep -/

namespace Access

section Frame

variable {Shadow Connection : Type} [ShadowStore Shadow] [Client Connection] (access : Access)
  (coordinator : Coordinator Shadow Connection)

theorem perform_lockStripes :
    (access.perform coordinator).2.lockStripes = coordinator.lockStripes := by
  cases access <;> rfl

theorem perform_pipelines : (access.perform coordinator).2.pipelines = coordinator.pipelines := by
  cases access <;> rfl

theorem perform_stats :
    (access.perform coordinator).2.stats = coordinator.stats.plus access.amount := by
  cases access <;> rfl

end Frame

theorem perform_alike (access : Access) (coordinator : Coordinator ShadowTable Simulator) :
    coordinator.connection.Alike (access.perform coordinator).2.connection := by
  cases access with
  | write device entries => exact coordinator.connection.write_alike device entries
  | read device wireIds => exact coordinator.connection.read_alike device wireIds
  | count amount => exact .refl _
  | settle operation config => exact .refl _
  | intent handle => exact .refl _
  | shown handle => exact .refl _
  | record handle config => exact .refl _

theorem content_of_untouched {access : Access} {place : Place} (untouched : ¬ access.Touches place)
    (coordinator : Coordinator ShadowTable Simulator) :
    (access.perform coordinator).2.content place = coordinator.content place := by
  cases access with
  | count amount => cases place <;> rfl
  | intent handle => cases place <;> rfl
  | shown handle => cases place <;> rfl
  | settle operation config =>
      cases place with
      | shown handle => rfl
      | cell device wireId index => rfl
      | intent handle =>
          refine (IntentStore.lookup_settled ..).trans (if_neg ?_)
          rintro rfl
          exact untouched (.settle operation config)
  | record other config =>
      cases place with
      | intent handle => rfl
      | cell device wireId index => rfl
      | shown handle =>
          refine (CellTable.find?_put ..).trans (if_neg ?_)
          rintro rfl
          exact untouched (.record other config)
  | read other wireIds =>
      cases place with
      | intent handle => rfl
      | shown handle => rfl
      | cell device wireId index =>
          have same := coordinator.connection.read_cells other wireIds
          exact congrFun (congrFun (congrFun same device) wireId) index
  | write other entries =>
      cases place with
      | intent handle => rfl
      | shown handle => rfl
      | cell device wireId index =>
          change (coordinator.connection.write other entries).2.cells device wireId index =
            coordinator.connection.cells device wireId index
          cases answered : coordinator.connection.writable other with
          | none => rw [(Simulator.write_of_unwritable answered entries).2]
          | some sizes =>
              rw [(Simulator.write_of_writable answered entries).2]
              split
              · rename_i here
                subst here
                apply SimulatedDevice.foldl_land_of_elsewhere
                rintro entry member ⟨rfl, given⟩
                exact untouched (.write member given)
              · rfl

/-- What a place holds after an access is told from what it held before. -/
theorem content_congr (access : Access) {place : Place}
    {first second : Coordinator ShadowTable Simulator}
    (alike : first.connection.Alike second.connection)
    (same : first.content place = second.content place) :
    (access.perform first).2.content place = (access.perform second).2.content place := by
  cases access with
  | count amount => cases place <;> exact same
  | intent handle => cases place <;> exact same
  | shown handle => cases place <;> exact same
  | settle operation config =>
      cases place with
      | shown handle => exact same
      | cell device wireId index => exact same
      | intent handle =>
          have unsettled : first.intents.lookup handle = second.intents.lookup handle := same
          change (first.intents.settled operation config).lookup handle =
            (second.intents.settled operation config).lookup handle
          rw [IntentStore.lookup_settled, IntentStore.lookup_settled, unsettled]
  | record other config =>
      cases place with
      | intent handle => exact same
      | cell device wireId index => exact same
      | shown handle =>
          have unrecorded : first.shadow.find? handle = second.shadow.find? handle := same
          change (first.shadow.put other config).find? handle =
            (second.shadow.put other config).find? handle
          rw [CellTable.find?_put, CellTable.find?_put, unrecorded]
  | read other wireIds =>
      cases place with
      | intent handle => exact same
      | shown handle => exact same
      | cell device wireId index =>
          change (first.connection.read other wireIds).2.cells device wireId index =
            (second.connection.read other wireIds).2.cells device wireId index
          rw [Simulator.read_cells, Simulator.read_cells]
          exact same
  | write other entries =>
      cases place with
      | intent handle => exact same
      | shown handle => exact same
      | cell device wireId index =>
          have unwritten : first.connection.cells device wireId index =
            second.connection.cells device wireId index := same
          change (first.connection.write other entries).2.cells device wireId index =
            (second.connection.write other entries).2.cells device wireId index
          have writable := alike.writable other
          cases answered : first.connection.writable other with
          | none =>
              rw [answered] at writable
              rw [(Simulator.write_of_unwritable answered entries).2,
                (Simulator.write_of_unwritable writable entries).2]
              exact unwritten
          | some sizes =>
              rw [answered] at writable
              rw [(Simulator.write_of_writable answered entries).2,
                (Simulator.write_of_writable writable entries).2, unwritten]

/-- The answer to an access is told from the places that it touches. -/
theorem answer_congr {access : Access} {first second : Coordinator ShadowTable Simulator}
    (alike : first.connection.Alike second.connection)
    (same : ∀ place, access.Touches place → first.content place = second.content place) :
    (access.perform first).1 = (access.perform second).1 := by
  cases access with
  | count amount => rfl
  | settle operation config => rfl
  | record handle config => rfl
  | intent handle => exact same _ (.intent handle)
  | shown handle => exact same _ (.shown handle)
  | write device entries =>
      change (first.connection.write device entries).1 = (second.connection.write device entries).1
      have writable := alike.writable device
      cases answered : first.connection.writable device with
      | none =>
          rw [answered] at writable
          rw [(Simulator.write_of_unwritable answered entries).1,
            (Simulator.write_of_unwritable writable entries).1]
      | some sizes =>
          rw [answered] at writable
          rw [(Simulator.write_of_writable answered entries).1,
            (Simulator.write_of_writable writable entries).1]
  | read device wireIds =>
      change (first.connection.read device wireIds).1 = (second.connection.read device wireIds).1
      rw [Simulator.read_local, Simulator.read_local, alike.readable]
      cases first.connection.readable device with
      | none => rfl
      | some sizes =>
          apply SimulatedDevice.listing_congr
          intro wireId asked index
          exact same _ (.read index asked)

/-- An access does the same wherever the places that it touches hold the same. -/
theorem perform_agree (access : Access) {region : Place → Prop} (inside : access.Inside region)
    {first second : Coordinator ShadowTable Simulator}
    (agree : Coordinator.AgreeOn region first second) :
    (access.perform first).1 = (access.perform second).1 ∧
      Coordinator.AgreeOn region (access.perform first).2 (access.perform second).2 := by
  constructor
  · exact answer_congr agree.connection fun place touched =>
      agree.contents place (inside place touched)
  · constructor
    · rw [perform_pipelines, perform_pipelines, agree.pipelines]
    · exact (access.perform_alike first).symm.trans
        (agree.connection.trans (access.perform_alike second))
    · intro place member
      exact access.content_congr agree.connection (agree.contents place member)

theorem perform_apart {access : Access} {region : Place → Prop}
    (outside : access.Inside fun place => ¬ region place)
    (coordinator : Coordinator ShadowTable Simulator) :
    Coordinator.AgreeOn region (access.perform coordinator).2 coordinator where
  pipelines := access.perform_pipelines coordinator
  connection := (access.perform_alike coordinator).symm
  contents place member :=
    content_of_untouched (fun touched => outside place touched member) coordinator

end Access

/-! ## The same state -/

namespace Coordinator

/-- The coordinators cannot be told apart: each table holds the same for every cell, the devices
hold the same, and the counts are equal. -/
structure Same (first second : Coordinator ShadowTable Simulator) : Prop where
  lockStripes : first.lockStripes = second.lockStripes
  pipelines : first.pipelines = second.pipelines
  intents : ∀ handle, first.intents.lookup handle = second.intents.lookup handle
  shadow : ∀ handle,
    ShadowStore.find? first.shadow handle = ShadowStore.find? second.shadow handle
  stats : first.stats = second.stats
  connection : first.connection.Alike second.connection
  cells : first.connection.cells = second.connection.cells

theorem same_iff {first second : Coordinator ShadowTable Simulator} :
    Same first second ↔
      first.lockStripes = second.lockStripes ∧ first.stats = second.stats ∧
        AgreeOn (fun _ => True) first second := by
  constructor
  · intro same
    refine ⟨same.lockStripes, same.stats, same.pipelines, same.connection, ?_⟩
    intro place _
    cases place with
    | intent handle => exact same.intents handle
    | shown handle => exact same.shadow handle
    | cell device wireId index =>
        exact congrFun (congrFun (congrFun same.cells device) wireId) index
  · intro same
    obtain ⟨lockStripes, stats, pipelines, connection, contents⟩ := same
    refine ⟨lockStripes, pipelines, ?_, ?_, stats, connection, ?_⟩
    · intro handle
      exact contents (.intent handle) trivial
    · intro handle
      exact contents (.shown handle) trivial
    · funext device wireId index
      exact contents (.cell device wireId index) trivial

theorem same_equivalence : Equivalence Same where
  refl coordinator := same_iff.mpr ⟨rfl, rfl, .refl _ coordinator⟩
  symm same := by
    obtain ⟨lockStripes, stats, agree⟩ := same_iff.mp same
    exact same_iff.mpr ⟨lockStripes.symm, stats.symm, agree.symm⟩
  trans left right := by
    obtain ⟨leftStripes, leftStats, leftAgree⟩ := same_iff.mp left
    obtain ⟨rightStripes, rightStats, rightAgree⟩ := same_iff.mp right
    exact same_iff.mpr ⟨leftStripes.trans rightStripes, leftStats.trans rightStats,
      leftAgree.trans rightAgree⟩

end Coordinator

namespace Access

theorem perform_respects : Handler.Respects perform Coordinator.Same where
  equivalence := Coordinator.same_equivalence
  access := by
    intro access first second same
    obtain ⟨lockStripes, stats, agree⟩ := Coordinator.same_iff.mp same
    obtain ⟨answers, agree⟩ := access.perform_agree (fun _ _ => trivial) agree
    refine ⟨answers, Coordinator.same_iff.mpr ⟨?_, ?_, agree⟩⟩
    · rw [perform_lockStripes, perform_lockStripes, lockStripes]
    · rw [perform_stats, perform_stats, stats]

theorem independent_of_apart {first second : Access}
    (apart : ∀ place, first.Touches place → ¬ second.Touches place) :
    Independent Coordinator.Same (perform first : Coordinator ShadowTable Simulator → _)
      (perform second) := by
  -- Each place is left alone by one of the two, so the other one finds and leaves the same in it.
  constructor
  · intro coordinator
    apply answer_congr (second.perform_alike coordinator).symm
    intro place touched
    exact content_of_untouched (apart place touched) coordinator
  · intro coordinator
    apply answer_congr (first.perform_alike coordinator).symm
    intro place touched
    exact content_of_untouched (fun other => apart place other touched) coordinator
  · intro coordinator
    refine Coordinator.same_iff.mpr ⟨?_, ?_, ?_, ?_, ?_⟩
    · simp only [perform_lockStripes]
    · simp only [perform_stats, Stats.plus_right_comm _ first.amount]
    · simp only [perform_pipelines]
    · have firstAlike := first.perform_alike coordinator
      have secondAlike := second.perform_alike coordinator
      exact ((firstAlike.trans (second.perform_alike _)).symm.trans
        (secondAlike.trans (first.perform_alike _)))
    · intro place _
      by_cases touched : first.Touches place
      · rw [content_of_untouched (apart place touched)]
        exact first.content_congr (second.perform_alike coordinator)
          (content_of_untouched (apart place touched) coordinator).symm
      · rw [content_of_untouched touched]
        exact second.content_congr (first.perform_alike coordinator).symm
          (content_of_untouched touched coordinator)

end Access

/-- Routines that touch different places are apart. -/
theorem Routine.apart_of_disjoint {Result Other : Type} {mine theirs : Place → Prop}
    {first : Routine Access.Answer Result} {second : Routine Access.Answer Other}
    (firstWithin : first.Within (Access.Inside mine))
    (secondWithin : second.Within (Access.Inside theirs))
    (disjoint : ∀ place, mine place → ¬ theirs place) :
    Routine.Apart (Access.perform : Handler Access.Answer (Coordinator ShadowTable Simulator))
      Coordinator.Same first second := by
  refine ⟨_, _, firstWithin, secondWithin, ?_⟩
  intro access inside other otherInside
  apply Access.independent_of_apart
  intro place touched otherTouched
  exact disjoint place (inside place touched) (otherInside place otherTouched)

end MeterSync
