/-!
# Routines that take turns

A routine reaches a shared state through single accesses, and goes on by what they answer. Routines
that run side by side take turns at their accesses. If no access of one matters to the others, it
does not matter either how they take turns: each comes to the result that it comes to alone, and
nothing is seen of their order afterwards.
-/

set_option autoImplicit false

namespace MeterSync

inductive Routine {Access : Type} (Answer : Access → Type) (Result : Type) : Type where
  | done (result : Result)
  | step (access : Access) (next : Answer access → Routine Answer Result)

/-- What each access answers, and what it makes of the state. -/
abbrev Handler {Access : Type} (Answer : Access → Type) (State : Type) :=
  (access : Access) → State → Answer access × State

namespace Routine

variable {Access : Type} {Answer : Access → Type} {Result Other State : Type}

protected def bind :
    Routine Answer Result → (Result → Routine Answer Other) → Routine Answer Other
  | done result, next => next result
  | step access later, next => step access fun answer => (later answer).bind next

instance : Monad (Routine Answer) where
  pure := done
  bind := Routine.bind

def ask (access : Access) : Routine Answer (Answer access) :=
  step access done

def inOrder : List (Routine Answer Result) → Routine Answer (List Result)
  | [] => done []
  | routine :: routines => do
    let result ← routine
    let results ← inOrder routines
    return result :: results

def run (handler : Handler Answer State) : Routine Answer Result → State → Result × State
  | done result, state => (result, state)
  | step access next, state =>
    (next (handler access state).1).run handler (handler access state).2

@[simp] theorem run_pure (handler : Handler Answer State) (result : Result) (state : State) :
    (pure result : Routine Answer Result).run handler state = (result, state) := rfl

@[simp] theorem run_done (handler : Handler Answer State) (result : Result) (state : State) :
    (done result : Routine Answer Result).run handler state = (result, state) := rfl

@[simp] theorem run_bind (handler : Handler Answer State) (routine : Routine Answer Result)
    (next : Result → Routine Answer Other) (state : State) :
    (routine >>= next).run handler state =
      (next (routine.run handler state).1).run handler (routine.run handler state).2 := by
  induction routine generalizing state with
  | done result => rfl
  | step access later ih => exact ih (handler access state).1 (handler access state).2

/-! ## The accesses of a routine -/

/-- Whatever it is answered, the routine makes no other accesses. -/
inductive Within (allowed : Access → Prop) : Routine Answer Result → Prop where
  | done (result : Result) : Within allowed (done result)
  | step {access : Access} {next : Answer access → Routine Answer Result} :
      allowed access → (∀ answer, Within allowed (next answer)) → Within allowed (step access next)

theorem Within.mono {allowed permitted : Access → Prop} {routine : Routine Answer Result}
    (within : routine.Within allowed) (wider : ∀ access, allowed access → permitted access) :
    routine.Within permitted := by
  induction within with
  | done result => exact .done result
  | step member _ ih => exact .step (wider _ member) ih

theorem Within.bind {allowed : Access → Prop} {routine : Routine Answer Result}
    {next : Result → Routine Answer Other} (within : routine.Within allowed)
    (later : ∀ result, (next result).Within allowed) : (routine >>= next).Within allowed := by
  induction within with
  | done result => exact later result
  | step member _ ih => exact .step member ih

theorem Within.ask {allowed : Access → Prop} {access : Access} (member : allowed access) :
    (ask access : Routine Answer (Answer access)).Within allowed :=
  .step member .done

theorem Within.inOrder {allowed : Access → Prop} {routines : List (Routine Answer Result)}
    (within : ∀ routine ∈ routines, routine.Within allowed) :
    (inOrder routines).Within allowed := by
  induction routines with
  | nil => exact .done []
  | cons routine routines ih =>
      obtain ⟨first, rest⟩ := List.forall_mem_cons.mp within
      exact first.bind fun _ => (ih rest).bind fun _ => .done _

/-- Whatever it is answered, the routine makes only some accesses and comes to a certain result. -/
inductive Leads (allowed : Access → Prop) (ends : Result → Prop) :
    Routine Answer Result → Prop where
  | done {result : Result} : ends result → Leads allowed ends (done result)
  | step {access : Access} {next : Answer access → Routine Answer Result} :
      allowed access → (∀ answer, Leads allowed ends (next answer)) →
      Leads allowed ends (step access next)

theorem Leads.bind {allowed : Access → Prop} {ends : Result → Prop}
    {routine : Routine Answer Result} {next : Result → Routine Answer Other}
    {last : Other → Prop} (leads : routine.Leads allowed ends)
    (later : ∀ result, ends result → (next result).Leads allowed last) :
    (routine >>= next).Leads allowed last := by
  induction leads with
  | done reached => exact later _ reached
  | step member _ ih => exact .step member ih

theorem Leads.inOrder {allowed : Access → Prop} {ends : Result → Prop}
    {routines : List (Routine Answer Result)}
    (leads : ∀ routine ∈ routines, routine.Leads allowed ends) :
    (inOrder routines).Leads allowed fun results => ∀ result ∈ results, ends result := by
  induction routines with
  | nil => exact .done (List.forall_mem_nil _)
  | cons routine routines ih =>
      obtain ⟨first, rest⟩ := List.forall_mem_cons.mp leads
      refine first.bind fun result reached => ?_
      refine (ih rest).bind fun results all => ?_
      exact .done (List.forall_mem_cons.mpr ⟨reached, all⟩)

variable {allowed : Access → Prop} {routine : Routine Answer Result}

theorem Within.run_preserves (within : routine.Within allowed) (handler : Handler Answer State)
    {motive : State → Prop}
    (kept : ∀ access, allowed access → ∀ state, motive state → motive (handler access state).2)
    {state : State} (start : motive state) : motive (routine.run handler state).2 := by
  induction within generalizing state with
  | done result => exact start
  | step member _ ih => exact ih _ (kept _ member state start)

/-- States that no access of the routine tells apart are not told apart by the routine. -/
theorem Within.run_related (within : routine.Within allowed) (handler : Handler Answer State)
    {related : State → State → Prop}
    (kept : ∀ access, allowed access → ∀ first second, related first second →
      (handler access first).1 = (handler access second).1 ∧
        related (handler access first).2 (handler access second).2)
    {first second : State} (start : related first second) :
    (routine.run handler first).1 = (routine.run handler second).1 ∧
      related (routine.run handler first).2 (routine.run handler second).2 := by
  induction within generalizing first second with
  | done result => exact ⟨rfl, start⟩
  | @step access next member _ ih =>
      obtain ⟨answers, later⟩ := kept access member first second start
      have ended := ih (handler access first).1 later
      rw [run, run, ← answers]
      exact ended

end Routine

/-! ## Independence -/

section Independence

variable {First Second State : Type}

/-- Two actions that can change places: neither sees what the other did, and nothing is seen of
their order afterwards. -/
structure Independent (same : State → State → Prop) (first : State → First × State)
    (second : State → Second × State) : Prop where
  firstAlone : ∀ state, (first (second state).2).1 = (first state).1
  secondAlone : ∀ state, (second (first state).2).1 = (second state).1
  swap : ∀ state, same (second (first state).2).2 (first (second state).2).2

theorem Independent.symm {same : State → State → Prop} {first : State → First × State}
    {second : State → Second × State} (equivalence : Equivalence same)
    (independent : Independent same first second) : Independent same second first where
  firstAlone := independent.secondAlone
  secondAlone := independent.firstAlone
  swap state := equivalence.symm (independent.swap state)

end Independence

/-- No access tells apart states that count as the same. -/
structure Handler.Respects {Access State : Type} {Answer : Access → Type}
    (handler : Handler Answer State) (same : State → State → Prop) : Prop where
  equivalence : Equivalence same
  access : ∀ access first second, same first second →
    (handler access first).1 = (handler access second).1 ∧
      same (handler access first).2 (handler access second).2

namespace Routine

section Independence

variable {Access : Type} {Answer : Access → Type} {Result Other State : Type}
  {handler : Handler Answer State} {same : State → State → Prop}

theorem within_true (routine : Routine Answer Result) : routine.Within fun _ => True := by
  induction routine with
  | done result => exact .done result
  | step access next ih => exact .step trivial ih

theorem run_same (respects : handler.Respects same) (routine : Routine Answer Result)
    {first second : State} (start : same first second) :
    (routine.run handler first).1 = (routine.run handler second).1 ∧
      same (routine.run handler first).2 (routine.run handler second).2 :=
  routine.within_true.run_related handler (fun access _ => respects.access access) start

theorem Within.independent (respects : handler.Respects same) {action : State → Other × State}
    {routine : Routine Answer Result}
    (within : routine.Within fun access => Independent same action (handler access)) :
    Independent same action (routine.run handler) := by
  induction within with
  | done result =>
      exact ⟨fun _ => rfl, fun _ => rfl, fun state => respects.equivalence.refl _⟩
  | @step access next apart _ ih =>
      constructor
      · intro state
        exact ((ih _).firstAlone _).trans (apart.firstAlone state)
      · intro state
        have swapped := run_same respects (next (handler access state).1) (apart.swap state)
        rw [run, run, apart.secondAlone]
        exact swapped.1.trans ((ih _).secondAlone _)
      · intro state
        have swapped := run_same respects (next (handler access state).1) (apart.swap state)
        rw [run, run, apart.secondAlone]
        exact respects.equivalence.trans swapped.2 ((ih _).swap _)

/-- The accesses of two routines are independent of each other, whatever is answered. -/
def Apart (handler : Handler Answer State) (same : State → State → Prop)
    (first : Routine Answer Result) (second : Routine Answer Other) : Prop :=
  ∃ mine theirs : Access → Prop, first.Within mine ∧ second.Within theirs ∧
    ∀ access, mine access → ∀ other, theirs other →
      Independent same (handler access) (handler other)

theorem Apart.symm (respects : handler.Respects same) {first : Routine Answer Result}
    {second : Routine Answer Other} (apart : Apart handler same first second) :
    Apart handler same second first := by
  obtain ⟨mine, theirs, firstWithin, secondWithin, independent⟩ := apart
  refine ⟨theirs, mine, secondWithin, firstWithin, ?_⟩
  intro other theirs access mine
  exact (independent access mine other theirs).symm respects.equivalence

theorem Apart.independent (respects : handler.Respects same) {first : Routine Answer Result}
    {second : Routine Answer Other} (apart : Apart handler same first second) :
    Independent same (first.run handler) (second.run handler) := by
  obtain ⟨mine, theirs, firstWithin, secondWithin, independent⟩ := apart
  apply Independent.symm respects.equivalence
  apply Within.independent respects
  apply firstWithin.mono
  intro access member
  apply Independent.symm respects.equivalence
  apply Within.independent respects
  exact secondWithin.mono (independent access member)

end Independence

/-! ## Taking turns -/

section Turns

variable {Access : Type} {Answer : Access → Type} {Result State : Type}

/-- Routines that take turns at their accesses, in any way, until all are done: the results they
come to, in the order of the routines, and the state they leave. -/
inductive Interleaves (handler : Handler Answer State) :
    List (Routine Answer Result) → State → List Result → State → Prop where
  | finished (results : List Result) (state : State) :
      Interleaves handler (results.map done) state results state
  | turn {before after : List (Routine Answer Result)} {access : Access}
      {next : Answer access → Routine Answer Result} {state last : State} {results : List Result} :
      Interleaves handler (before ++ next (handler access state).1 :: after)
        (handler access state).2 results last →
      Interleaves handler (before ++ step access next :: after) state results last

variable {handler : Handler Answer State} {same : State → State → Prop}
  {before after routines : List (Routine Answer Result)} {state last : State}
  {results : List Result}

@[simp] theorem run_inOrder_nil :
    (inOrder ([] : List (Routine Answer Result))).run handler state = ([], state) := rfl

theorem run_inOrder_cons (routine : Routine Answer Result) :
    (inOrder (routine :: routines)).run handler state =
      ((routine.run handler state).1 ::
          ((inOrder routines).run handler (routine.run handler state).2).1,
        ((inOrder routines).run handler (routine.run handler state).2).2) := by
  simp only [inOrder, run_bind, run_pure]

theorem run_inOrder_append :
    (inOrder (before ++ after)).run handler state =
      (((inOrder before).run handler state).1 ++
          ((inOrder after).run handler ((inOrder before).run handler state).2).1,
        ((inOrder after).run handler ((inOrder before).run handler state).2).2) := by
  induction before generalizing state with
  | nil => rfl
  | cons routine before ih =>
      rw [List.cons_append, run_inOrder_cons, run_inOrder_cons, ih]
      rfl

theorem run_inOrder_done (results : List Result) :
    (inOrder (results.map done : List (Routine Answer Result))).run handler state =
      (results, state) := by
  induction results with
  | nil => rfl
  | cons result results ih => rw [List.map_cons, run_inOrder_cons, run_done, ih]

/-- Routines that leave the state as it is come to their results one by one. -/
theorem run_inOrder_map {Item : Type} {items : List Item} {routine : Item → Routine Answer Result}
    {value : Item → Result}
    (still : ∀ item ∈ items, (routine item).run handler state = (value item, state)) :
    (inOrder (items.map routine)).run handler state = (items.map value, state) := by
  induction items with
  | nil => rfl
  | cons item items ih =>
      obtain ⟨here, rest⟩ := List.forall_mem_cons.mp still
      rw [List.map_cons, run_inOrder_cons, here, ih rest, List.map_cons]

theorem Interleaves.of_run {routine : Routine Answer Result}
    (interleaved : Interleaves handler (before ++ done (routine.run handler state).1 :: after)
      (routine.run handler state).2 results last) :
    Interleaves handler (before ++ routine :: after) state results last := by
  induction routine generalizing state with
  | done result => exact interleaved
  | step access next ih =>
      apply Interleaves.turn
      exact ih _ interleaved

/-- To run routines one after the other is one way for them to take turns. -/
theorem Interleaves.inOrder (handler : Handler Answer State)
    (routines : List (Routine Answer Result)) (state : State) :
    Interleaves handler routines state ((inOrder routines).run handler state).1
      ((inOrder routines).run handler state).2 := by
  -- The routines that are done stand in front, and the next one makes all its accesses.
  have from_results : ∀ (results : List Result) (state : State),
      Interleaves handler (results.map done ++ routines) state
        (results ++ ((Routine.inOrder routines).run handler state).1)
        ((Routine.inOrder routines).run handler state).2 := by
    induction routines with
    | nil =>
        intro results state
        rw [List.append_nil, run_inOrder_nil, List.append_nil]
        exact .finished results state
    | cons routine routines ih =>
        intro results state
        apply Interleaves.of_run
        rw [run_inOrder_cons, ← List.singleton_append (l := routines), ← List.append_assoc]
        have later := ih (results ++ [(routine.run handler state).1]) (routine.run handler state).2
        rw [List.map_append, List.append_assoc results] at later
        exact later
  exact from_results [] state

/-! ## The order is not seen -/

theorem Apart.next {access : Access} {next : Answer access → Routine Answer Result}
    {other : Routine Answer Result} (apart : Apart handler same (step access next) other)
    (answer : Answer access) : Apart handler same (next answer) other := by
  obtain ⟨mine, theirs, within, otherWithin, independent⟩ := apart
  cases within with
  | step _ later => exact ⟨mine, theirs, later answer, otherWithin, independent⟩

theorem Apart.access {access : Access} {next : Answer access → Routine Answer Result}
    {other : Routine Answer Result} (apart : Apart handler same (step access next) other) :
    other.Within fun later => Independent same (handler access) (handler later) := by
  obtain ⟨mine, theirs, within, otherWithin, independent⟩ := apart
  cases within with
  | step member _ => exact otherWithin.mono (independent access member)

/-- An access can be made before the routines that it is independent of. -/
theorem run_inOrder_turn (respects : handler.Respects same) {access : Access}
    {next : Answer access → Routine Answer Result} (after : List (Routine Answer Result))
    (state : State)
    (apart : ∀ routine ∈ before,
      routine.Within fun later => Independent same (handler access) (handler later)) :
    ((inOrder (before ++ next (handler access state).1 :: after)).run handler
        (handler access state).2).1 =
      ((inOrder (before ++ step access next :: after)).run handler state).1 ∧
    same ((inOrder (before ++ next (handler access state).1 :: after)).run handler
        (handler access state).2).2
      ((inOrder (before ++ step access next :: after)).run handler state).2 := by
  have independent := Within.independent respects (Within.inOrder apart)
  have stepped (state : State) :
      (inOrder (step access next :: after)).run handler state =
        (inOrder (next (handler access state).1 :: after)).run handler
          (handler access state).2 := by
    rw [run_inOrder_cons, run_inOrder_cons, run]
  obtain ⟨results, ended⟩ := run_same respects
    (inOrder (next (handler access state).1 :: after)) (independent.swap state)
  rw [run_inOrder_append, run_inOrder_append, stepped, independent.firstAlone]
  dsimp only
  rw [independent.secondAlone, results]
  exact ⟨rfl, ended⟩

/-- A turn leaves routines apart, and shows the accesses that come before it in order to be
independent of it. -/
theorem apart_of_turn (respects : handler.Respects same) {access : Access}
    {next : Answer access → Routine Answer Result}
    (apart : (before ++ step access next :: after).Pairwise (Apart handler same))
    (answer : Answer access) :
    (before ++ next answer :: after).Pairwise (Apart handler same) ∧
      ∀ routine ∈ before,
        routine.Within fun later => Independent same (handler access) (handler later) := by
  obtain ⟨beforeApart, stepApart, across⟩ := List.pairwise_append.mp apart
  obtain ⟨afterApart, restApart⟩ := List.pairwise_cons.mp stepApart
  have earlier (routine : Routine Answer Result) (member : routine ∈ before) :
      Apart handler same (step access next) routine :=
    (across routine member _ List.mem_cons_self).symm respects
  refine ⟨?_, fun routine member => (earlier routine member).access⟩
  refine List.pairwise_append.mpr ⟨beforeApart, List.pairwise_cons.mpr ⟨?_, restApart⟩, ?_⟩
  · intro other member
    exact (afterApart other member).next _
  · intro routine member other otherMember
    cases List.mem_cons.mp otherMember with
    | inl here =>
        subst here
        exact ((earlier routine member).next _).symm respects
    | inr later => exact across routine member other (List.mem_cons_of_mem _ later)

/-- Routines that are apart come to the same results in the same state, however they take turns, as
when they run one after the other. -/
theorem Interleaves.eq_inOrder (respects : handler.Respects same)
    (interleaved : Interleaves handler routines state results last)
    (apart : routines.Pairwise (Apart handler same)) :
    results = ((Routine.inOrder routines).run handler state).1 ∧
      same last ((Routine.inOrder routines).run handler state).2 := by
  induction interleaved with
  | finished results state =>
      rw [run_inOrder_done]
      exact ⟨rfl, respects.equivalence.refl state⟩
  | @turn before after access next state last results _ ih =>
      obtain ⟨stillApart, independent⟩ := apart_of_turn respects apart (handler access state).1
      -- The access that was made now may as well be made when its routine comes up in order.
      obtain ⟨sameResults, sameState⟩ := ih stillApart
      obtain ⟨turnResults, turnState⟩ := run_inOrder_turn respects after state independent
      exact ⟨sameResults.trans turnResults, respects.equivalence.trans sameState turnState⟩

theorem run_inOrder_alone (respects : handler.Respects same)
    (apart : routines.Pairwise (Apart handler same)) (state : State) :
    ((inOrder routines).run handler state).1 =
      routines.map fun routine => (routine.run handler state).1 := by
  induction routines generalizing state with
  | nil => rfl
  | cons routine routines ih =>
      obtain ⟨first, rest⟩ := List.pairwise_cons.mp apart
      rw [run_inOrder_cons, List.map_cons, ih rest]
      refine congrArg _ (List.map_congr_left ?_)
      intro other member
      exact ((first other member).independent respects).secondAlone state

theorem run_inOrder_map_alone {Item : Type} {items : List Item}
    {routine : Item → Routine Answer Result} {value : Item → Result}
    (respects : handler.Respects same) (apart : (items.map routine).Pairwise (Apart handler same))
    (each : ∀ item, ((routine item).run handler state).1 = value item) :
    ((inOrder (items.map routine)).run handler state).1 = items.map value := by
  rw [run_inOrder_alone respects apart, List.map_map]
  exact List.map_congr_left fun item _ => each item

theorem run_inOrder_perm (respects : handler.Respects same)
    {order : List (Routine Answer Result)} (permuted : order.Perm routines)
    (apart : order.Pairwise (Apart handler same)) (state : State) :
    same ((inOrder order).run handler state).2 ((inOrder routines).run handler state).2 := by
  induction permuted generalizing state with
  | nil => exact respects.equivalence.refl state
  | cons routine _ ih =>
      rw [run_inOrder_cons, run_inOrder_cons]
      exact ih (List.pairwise_cons.mp apart).2 _
  | swap first second rest =>
      obtain ⟨each, _⟩ := List.pairwise_cons.mp apart
      have swapped := ((each first List.mem_cons_self).independent respects).swap state
      simp only [run_inOrder_cons]
      exact (run_same respects (inOrder rest) swapped).2
  | trans left right leftIH rightIH =>
      have between := (left.pairwise_iff fun apart => apart.symm respects).mp apart
      exact respects.equivalence.trans (leftIH apart state) (rightIH between state)

end Turns

end Routine

end MeterSync
