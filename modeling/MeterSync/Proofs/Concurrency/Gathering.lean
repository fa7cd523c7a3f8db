import MeterSync.Proofs.Concurrency.Routine

/-!
# Gathering results

Tasks that run side by side are gathered as they finish: whenever one is done, its result may be
taken, while others still take turns. Results can be gathered in every order. If no access of one
task matters to the others, only their order is left to chance.
-/

set_option autoImplicit false

namespace MeterSync

namespace Routine

variable {Access : Type} {Answer : Access → Type} {Result State : Type}

/-- Tasks that take turns in any way, each of them gathered at some time after it is done: the
results in the order in which they are gathered, and the state that is left. -/
inductive Gathers (handler : Handler Answer State) :
    List (Routine Answer Result) → State → List Result → State → Prop where
  | finished (state : State) : Gathers handler [] state [] state
  | turn {before after : List (Routine Answer Result)} {access : Access}
      {next : Answer access → Routine Answer Result} {state last : State}
      {gathered : List Result} :
      Gathers handler (before ++ next (handler access state).1 :: after) (handler access state).2
        gathered last →
      Gathers handler (before ++ step access next :: after) state gathered last
  | joined {before after : List (Routine Answer Result)} {result : Result} {state last : State}
      {gathered : List Result} :
      Gathers handler (before ++ after) state gathered last →
      Gathers handler (before ++ done result :: after) state (result :: gathered) last

variable {handler : Handler Answer State} {same : State → State → Prop}
  {tasks : List (Routine Answer Result)} {state last : State} {results gathered : List Result}

theorem Gathers.of_done (state : State) (permuted : gathered.Perm results) :
    Gathers handler (results.map done) state gathered state := by
  induction gathered generalizing results with
  | nil =>
      rw [permuted.nil_eq.symm]
      exact .finished state
  | cons result gathered ih =>
      obtain ⟨before, after, rfl⟩ := List.append_of_mem (permuted.mem_iff.mp List.mem_cons_self)
      have rest := ih (List.Perm.cons_inv (permuted.trans List.perm_middle))
      rw [List.map_append] at rest
      rw [List.map_append, List.map_cons]
      exact .joined rest

/-- However tasks take turns, their results can be gathered in every order. -/
theorem Interleaves.gathers (interleaved : Interleaves handler tasks state results last)
    (permuted : gathered.Perm results) : Gathers handler tasks state gathered last := by
  induction interleaved with
  | finished results state => exact .of_done state permuted
  | turn _ ih => exact .turn (ih permuted)

/-- From tasks that are apart the same results are gathered as when they run one after the other,
in some order, and the same state is left. -/
theorem Gathers.perm_inOrder (respects : handler.Respects same)
    (gathers : Gathers handler tasks state gathered last)
    (apart : tasks.Pairwise (Apart handler same)) :
    gathered.Perm ((inOrder tasks).run handler state).1 ∧
      same last ((inOrder tasks).run handler state).2 := by
  induction gathers with
  | finished state => exact ⟨.refl _, respects.equivalence.refl state⟩
  | @turn before after access next state last gathered _ ih =>
      obtain ⟨stillApart, independent⟩ := apart_of_turn respects apart (handler access state).1
      obtain ⟨sameResults, sameState⟩ := ih stillApart
      obtain ⟨turnResults, turnState⟩ := run_inOrder_turn respects after state independent
      rw [turnResults] at sameResults
      exact ⟨sameResults, respects.equivalence.trans sameState turnState⟩
  | @joined before after result state last gathered _ ih =>
      have shorter : (before ++ after).Sublist (before ++ done result :: after) :=
        (List.sublist_cons_self (done result) after).append_left before
      obtain ⟨sameResults, sameState⟩ := ih (apart.sublist shorter)
      rw [run_inOrder_append] at sameResults sameState ⊢
      rw [run_inOrder_cons, run_done]
      exact ⟨(sameResults.cons result).trans List.perm_middle.symm, sameState⟩

end Routine

end MeterSync
