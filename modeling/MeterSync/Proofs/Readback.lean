import MeterSync.Proofs.Confirmation
import MeterSync.Proofs.Locality
import MeterSync.Proofs.Representation

/-!
# What a read finds of earlier writes

A cell of a simulated device holds the configuration of the last entry that was accepted for it. A
read goes through the cells of an array as a signed number counts them. Up to 2 ^ 63 - 1 cells these
are the cells that accept writes; of a larger array every cell that can be addressed accepts writes,
and a read finds none of them.
-/

set_option autoImplicit false

namespace MeterSync

/-! ## The last entry for a cell -/

/-- The last of some entries that is for a cell. -/
def Wire.Entry.lastFor (entries : List Wire.Entry) (wireId : UInt32) (index : Int64) :
    Option Wire.Entry :=
  (entries.filter fun entry => entry.meterId = wireId ∧ entry.index = some index).getLast?

namespace Wire.Entry

@[simp] theorem lastFor_nil (wireId : UInt32) (index : Int64) : lastFor [] wireId index = none :=
  rfl

theorem lastFor_append (earlier later : List Wire.Entry) (wireId : UInt32) (index : Int64) :
    lastFor (earlier ++ later) wireId index =
      (lastFor later wireId index).or (lastFor earlier wireId index) := by
  rw [lastFor, List.filter_append, List.getLast?_append]
  rfl

theorem lastFor_cons (entry : Wire.Entry) (entries : List Wire.Entry) (wireId : UInt32)
    (index : Int64) :
    lastFor (entry :: entries) wireId index =
      (lastFor entries wireId index).or
        (if entry.meterId = wireId ∧ entry.index = some index then some entry else none) := by
  rw [← List.singleton_append, lastFor_append]
  by_cases here : entry.meterId = wireId ∧ entry.index = some index <;> simp [lastFor, here]

/-- What a cell holds after some entries were accepted, from what it held before. -/
def heldAfter (entries : List Wire.Entry) (wireId : UInt32) (index : Int64)
    (held : Option Wire.Config) : Option Wire.Config :=
  (lastFor entries wireId index).elim held (·.config)

theorem heldAfter_append (earlier later : List Wire.Entry) (wireId : UInt32) (index : Int64)
    (held : Option Wire.Config) :
    heldAfter (earlier ++ later) wireId index held =
      heldAfter later wireId index (heldAfter earlier wireId index held) := by
  rw [heldAfter, lastFor_append]
  cases last : lastFor later wireId index with
  | none => simp [heldAfter, last]
  | some entry => simp [heldAfter, last]

end Wire.Entry

namespace SimulatedDevice

/-! ## Indices that a read goes through -/

theorem mem_indices {size : UInt64} {index : Int64} :
    index ∈ indices size ↔ 0 ≤ index.toInt ∧ index.toInt < size.toInt64.toInt := by
  have bound := size.toInt64.toInt_lt
  rw [indices, List.mem_map]
  constructor
  · intro listed
    obtain ⟨position, inside, rfl⟩ := listed
    have below := List.mem_range.mp inside
    rw [Int64.toInt_ofNat_of_lt (by omega)]
    omega
  · intro inside
    obtain ⟨unsigned, below⟩ := inside
    refine ⟨index.toInt.toNat, List.mem_range.mpr (by omega), ?_⟩
    apply Int64.toInt_inj.mp
    rw [Int64.toInt_ofNat_of_lt (by omega)]
    omega

theorem indices_ascending (size : UInt64) :
    (indices size).Pairwise fun first second => first.toInt < second.toInt := by
  have bound := size.toInt64.toInt_lt
  rw [indices, List.pairwise_map]
  refine List.Pairwise.imp_of_mem ?_ List.pairwise_lt_range
  intro first second firstInside secondInside before
  have firstBelow := List.mem_range.mp firstInside
  have secondBelow := List.mem_range.mp secondInside
  rw [Int64.toInt_ofNat_of_lt (by omega), Int64.toInt_ofNat_of_lt (by omega)]
  omega

/-- A size that a signed number does not hold is read as a negative one. -/
theorem indices_of_large {size : UInt64} (large : Codec.maxWireValue < size) :
    indices size = [] := by
  have above : 2 ^ 63 ≤ size.toNat := by
    have := UInt64.lt_iff_toNat_lt.mp large
    simp only [Codec.maxWireValue, UInt64.reduceToNat] at this
    omega
  have negative : size.toInt64.toInt < 0 := by
    have spread : size.toInt64.toInt = size.toBitVec.toInt := rfl
    have below := size.toNat_lt
    rw [spread, BitVec.toInt_eq_toNat_cond, UInt64.toNat_toBitVec, if_neg (by omega)]
    omega
  rw [indices, Int.toNat_of_nonpos (Int.le_of_lt negative)]
  rfl

/-! ## Writing -/

theorem statusIn_eq_none_iff {sizes : UInt32 → Option UInt64} {wireId : UInt32} {size : UInt64}
    (sized : sizes wireId = some size) (index : Int64) (config : Option Wire.Config) :
    statusIn sizes ⟨wireId, some index, config⟩ = none ↔
      0 ≤ index.toInt ∧ index.toInt < size.toNat := by
  simp only [statusIn, aim, sized]
  by_cases outside : index.toInt < 0 ∨ (size.toNat : Int) ≤ index.toInt
  · rw [if_pos outside]
    constructor
    · intro accepted
      cases accepted
    · intro inside
      omega
  · rw [if_neg outside]
    constructor
    · intro _
      omega
    · exact fun _ => rfl

/-- Entries leave in a cell what the last accepted one of them says. -/
theorem foldl_land_eq (sizes : UInt32 → Option UInt64) (entries : List Wire.Entry)
    (wireId : UInt32) (index : Int64) (held : Option Wire.Config) :
    entries.foldl (land sizes wireId index) held =
      Wire.Entry.heldAfter (entries.filter fun entry => (statusIn sizes entry).isNone) wireId index
        held := by
  induction entries generalizing held with
  | nil => rfl
  | cons entry entries ih =>
      rw [List.foldl_cons, ih, List.filter_cons]
      cases aimed : aim sizes entry with
      -- A refused entry is filtered out and leaves the cell alone.
      | error reason =>
          have refused : ¬ (statusIn sizes entry).isNone := by simp [statusIn, aimed]
          have untouched : land sizes wireId index held entry = held := by simp only [land, aimed]
          rw [if_neg refused, untouched]
      | ok key =>
          obtain ⟨sameId, given, _⟩ := index_of_aim aimed
          have accepted : (statusIn sizes entry).isNone := by simp [statusIn, aimed]
          have landed : land sizes wireId index held entry =
              Wire.Entry.heldAfter [entry] wireId index held := by
            simp only [land, aimed, Wire.Entry.heldAfter, Wire.Entry.lastFor_cons,
              Wire.Entry.lastFor_nil, Option.none_or, ← sameId, given, Option.some.injEq]
            grind
          rw [if_pos accepted, ← List.singleton_append, Wire.Entry.heldAfter_append, landed]

/-! ## Reading -/

theorem listing_arrays {sizes : UInt32 → Option UInt64} {arrays : List MeterArray}
    (sized : ∀ array ∈ arrays, sizes array.wireId = some array.size)
    (cells : UInt32 → Int64 → Option Wire.Config) :
    listing sizes cells (arrays.map (·.wireId)) =
      .ok (arrays.flatMap fun array => (indices array.size).map fun index =>
        ⟨array.wireId, some index, cells array.wireId index⟩) := by
  induction arrays with
  | nil => rfl
  | cons array arrays ih =>
      obtain ⟨here, rest⟩ := List.forall_mem_cons.mp sized
      simp only [List.map_cons, listing, here, ih rest]
      rfl

end SimulatedDevice

theorem ClientCall.confirmed_of_map (device : DeviceId) (entries : List Wire.Entry)
    (status : Wire.Entry → WriteStatus) :
    (ClientCall.write device entries (.ok (entries.map status))).confirmed =
      entries.filter fun entry => (status entry).isNone := by
  rw [confirmed]
  induction entries with
  | nil => rfl
  | cons entry entries ih =>
      rw [List.map_cons, List.zip_cons_cons, List.filter_cons, List.filter_cons]
      cases status entry with
      | none => simp [ih]
      | some reason => simpa using ih

namespace Simulator

/-! ## Use of devices -/

/-- What can be done with simulated devices that does not change them behind anyone's back. -/
inductive Use where
  | write (device : DeviceId) (entries : List Wire.Entry)
  | read (device : DeviceId) (wireIds : List UInt32)
  | failWrites (fail : Bool)
  | failReads (fail : Bool)
deriving DecidableEq, Repr

def use (simulator : Simulator) : Use → Simulator
  | .write device entries => (simulator.write device entries).2
  | .read device wireIds => (simulator.read device wireIds).2
  | .failWrites fail => { simulator with failWrites := fail }
  | .failReads fail => { simulator with failReads := fail }

def useAll (simulator : Simulator) (uses : List Use) : Simulator :=
  uses.foldl use simulator

/-- The entries that a device accepts: those whose own status is good in the answer to the write. -/
def taken (simulator : Simulator) (device : DeviceId) : Use → List Wire.Entry
  | .write target entries =>
    if target = device then
      (ClientCall.write target entries (simulator.write target entries).1).confirmed
    else []
  | .read _ _ | .failWrites _ | .failReads _ => []

/-- The entries that a device accepts in the course of several uses, the earliest first. -/
def takenAll (simulator : Simulator) (device : DeviceId) : List Use → List Wire.Entry
  | [] => []
  | use :: uses => simulator.taken device use ++ (simulator.use use).takenAll device uses

theorem use_layout (simulator : Simulator) (use : Use) :
    (simulator.use use).layout = simulator.layout := by
  cases use with
  | write device entries => exact (simulator.write_alike device entries).layout
  | read device wireIds => exact (simulator.read_alike device wireIds).layout
  | failWrites fail => rfl
  | failReads fail => rfl

theorem useAll_layout (simulator : Simulator) (uses : List Use) :
    (simulator.useAll uses).layout = simulator.layout :=
  List.foldlRecOn (motive := fun reached : Simulator => reached.layout = simulator.layout) uses use
    rfl fun reached same used _ => (reached.use_layout used).trans same

/-- A use leaves in a cell what the entries that are taken say, and otherwise what it held. -/
theorem use_cells (simulator : Simulator) (use : Use) (device : DeviceId) (wireId : UInt32)
    (index : Int64) :
    (simulator.use use).cells device wireId index =
      Wire.Entry.heldAfter (simulator.taken device use) wireId index
        (simulator.cells device wireId index) := by
  cases use with
  | write target entries =>
      cases answers : simulator.writable target with
      | none =>
          obtain ⟨failed, same⟩ := write_of_unwritable answers entries
          have nothing : simulator.taken device (.write target entries) = [] := by
            rw [taken, failed]
            exact ite_self []
          rw [nothing, Simulator.use, same]
          rfl
      | some sizes =>
          obtain ⟨statuses, cells⟩ := write_of_writable answers entries
          rw [Simulator.use, cells, taken, statuses, ClientCall.confirmed_of_map]
          by_cases here : device = target
          · rw [if_pos here, if_pos here.symm, SimulatedDevice.foldl_land_eq]
          · rw [if_neg here, if_neg fun same => here same.symm]
            rfl
  | read target wireIds =>
      rw [Simulator.use, read_cells]
      rfl
  | failWrites fail => rfl
  | failReads fail => rfl

theorem useAll_cells (simulator : Simulator) (uses : List Use) (device : DeviceId)
    (wireId : UInt32) (index : Int64) :
    (simulator.useAll uses).cells device wireId index =
      Wire.Entry.heldAfter (simulator.takenAll device uses) wireId index
        (simulator.cells device wireId index) := by
  induction uses generalizing simulator with
  | nil => rfl
  | cons use uses ih =>
      have later := ih (simulator.use use)
      rw [use_cells] at later
      rw [takenAll, Wire.Entry.heldAfter_append]
      exact later

/-! ## A device that was added -/

theorem layout_addDevice (simulator : Simulator) (device : DeviceId) (pipeline : Pipeline) :
    (simulator.addDevice device pipeline).layout device =
      some (SimulatedDevice.ofPipeline pipeline).size? := by
  rw [layout, addDevice, get?_insert, if_pos rfl, Option.map_some]

theorem cells_addDevice (simulator : Simulator) (device : DeviceId) (pipeline : Pipeline)
    (wireId : UInt32) (index : Int64) :
    (simulator.addDevice device pipeline).cells device wireId index = none := by
  rw [addDevice, cells_insert, CellView.replace, if_pos rfl]
  exact cell?_ofPipeline pipeline wireId index

/-- A device accepts an entry, unless writes are made to fail. -/
def Accepts (simulator : Simulator) (device : DeviceId) (entry : Wire.Entry) : Prop :=
  ({ simulator with failWrites := false }.write device [entry]).1 = .ok [none]

theorem accepts_iff {simulator : Simulator} {device : DeviceId} {sizes : UInt32 → Option UInt64}
    (laidOut : simulator.layout device = some sizes) (entry : Wire.Entry) :
    simulator.Accepts device entry ↔ SimulatedDevice.statusIn sizes entry = none := by
  have answers : { simulator with failWrites := false }.writable device = some sizes := laidOut
  rw [Accepts, (write_of_writable answers [entry]).1]
  simp

/-- Up to the largest number of the wire, a read goes through the cells that accept writes. -/
theorem mem_indices_iff_accepts {simulator : Simulator} {device : DeviceId}
    {sizes : UInt32 → Option UInt64} (laidOut : simulator.layout device = some sizes)
    {array : MeterArray} (sized : sizes array.wireId = some array.size)
    (readable : array.size ≤ Codec.maxWireValue) (index : Int64) (config : Option Wire.Config) :
    index ∈ SimulatedDevice.indices array.size ↔
      simulator.Accepts device ⟨array.wireId, some index, config⟩ := by
  rw [accepts_iff laidOut, SimulatedDevice.statusIn_eq_none_iff sized, SimulatedDevice.mem_indices,
    Codec.toInt_toInt64 readable]

theorem accepts_of_large {simulator : Simulator} {device : DeviceId}
    {sizes : UInt32 → Option UInt64} (laidOut : simulator.layout device = some sizes)
    {array : MeterArray} (sized : sizes array.wireId = some array.size)
    (large : Codec.maxWireValue < array.size) (index : Int64) (config : Option Wire.Config) :
    simulator.Accepts device ⟨array.wireId, some index, config⟩ ↔ 0 ≤ index.toInt := by
  rw [accepts_iff laidOut, SimulatedDevice.statusIn_eq_none_iff sized]
  have above : Codec.maxWireValue.toNat < array.size.toNat := UInt64.lt_iff_toNat_lt.mp large
  have bound := index.toInt_lt
  simp only [Codec.maxWireValue, UInt64.reduceToNat] at above
  omega

/-- After any use of a device that was added, a read of arrays of its pipeline returns array by
array the cells of `SimulatedDevice.indices`, each with the configuration of the last entry that was
accepted for it. These are the cells that accept writes, as long as the size of the array is a
number of the wire; of a larger array a read returns none of them. -/
theorem read_shows_taken_writes (before : Simulator) (device : DeviceId) (pipeline : Pipeline)
    (uses : List Use) (asked : List MeterArray) (known : ∀ array ∈ asked, array ∈ pipeline.arrays) :
    let added := before.addDevice device pipeline
    let reached := added.useAll uses
    (reached.read device (asked.map (·.wireId))).1 =
        (if reached.failReads then .error (.unreachable device)
        else .ok (asked.flatMap fun array =>
          (SimulatedDevice.indices array.size).map fun index =>
            ⟨array.wireId, some index,
              (Wire.Entry.lastFor (added.takenAll device uses) array.wireId index).bind
                (·.config)⟩)) ∧
      ∀ array ∈ asked,
        ((SimulatedDevice.indices array.size).Pairwise fun first second =>
          first.toInt < second.toInt) ∧
        (array.size ≤ Codec.maxWireValue → ∀ index config,
          index ∈ SimulatedDevice.indices array.size ↔
            reached.Accepts device ⟨array.wireId, some index, config⟩) ∧
        (Codec.maxWireValue < array.size → SimulatedDevice.indices array.size = [] ∧
          ∀ index config,
            reached.Accepts device ⟨array.wireId, some index, config⟩ ↔ 0 ≤ index.toInt) := by
  intro added reached
  have laidOut : reached.layout device = some (SimulatedDevice.ofPipeline pipeline).size? := by
    rw [useAll_layout, layout_addDevice]
  have sized : ∀ array ∈ asked,
      (SimulatedDevice.ofPipeline pipeline).size? array.wireId = some array.size :=
    fun array member => SimulatedDevice.size?_ofPipeline (known array member)
  have cells : ∀ wireId index, reached.cells device wireId index =
      (Wire.Entry.lastFor (added.takenAll device uses) wireId index).bind (·.config) := by
    intro wireId index
    rw [useAll_cells, cells_addDevice, Wire.Entry.heldAfter]
    cases Wire.Entry.lastFor (added.takenAll device uses) wireId index <;> rfl
  refine ⟨?_, ?_⟩
  · rw [read_local, readable]
    cases reached.failReads with
    | true => rfl
    | false =>
        simp only [Bool.false_eq_true, if_false, laidOut, SimulatedDevice.listing_arrays sized,
          cells]
  · intro array member
    have size := sized array member
    exact ⟨SimulatedDevice.indices_ascending array.size,
      fun readable => mem_indices_iff_accepts laidOut size readable,
      fun large => ⟨SimulatedDevice.indices_of_large large, accepts_of_large laidOut size large⟩⟩

def Sample.single : MeterArray := ⟨Sample.meter, 5, 1, .bytes⟩

def Sample.double : MeterArray := ⟨⟨"n", by decide⟩, 6, 2, .packets⟩

def Sample.both : Pipeline :=
  ⟨[Sample.single, Sample.double], by decide, by decide, by decide⟩

/-- The cell of the first array is written twice, and a third time while writes fail. Of the second
array the last cell is written and set back, and an entry beyond it is refused. -/
def Sample.uses : List Use :=
  [.write Sample.device [⟨5, some 0, some ⟨1, 2, 3, 4⟩⟩, ⟨5, some 0, some Sample.numbers⟩],
    .failWrites true,
    .write Sample.device [⟨5, some 0, none⟩],
    .failWrites false,
    .write Sample.device [⟨6, some 1, some Sample.numbers⟩, ⟨6, some 2, some Sample.numbers⟩],
    .read Sample.device [5],
    .write Sample.device [⟨6, some 1, none⟩]]

theorem read_shows_both :
    (∀ array ∈ [Sample.double, Sample.single], array ∈ Sample.both.arrays) ∧
      (((Simulator.empty.addDevice Sample.device Sample.both).useAll Sample.uses).read
          Sample.device [6, 5]).1 =
        .ok [⟨6, some 0, none⟩, ⟨6, some 1, none⟩, ⟨5, some 0, some Sample.numbers⟩] := by
  have known : ∀ array ∈ [Sample.double, Sample.single], array ∈ Sample.both.arrays := by decide
  have shown := (read_shows_taken_writes .empty Sample.device Sample.both Sample.uses _ known).1
  exact ⟨known, shown.trans (by decide +kernel)⟩

/-- A cell of an array that the wire cannot count accepts an entry and holds it, and a read of the
array does not show it. -/
theorem read_hides_taken_write :
    let added := Simulator.empty.addDevice Sample.device Coordinator.vast
    let written := added.write Sample.device [⟨5, some 0, some Sample.numbers⟩]
    written.1 = .ok [none] ∧
      written.2.cell? Sample.device 5 0 = some Sample.numbers ∧
      (written.2.read Sample.device (Coordinator.vast.arrays.map (·.wireId))).1 = .ok [] := by
  decide +kernel

end Simulator

end MeterSync
