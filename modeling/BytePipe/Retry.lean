import BytePipe.Error

/-!
Repeating a non-blocking operation until it no longer has to wait.
-/
namespace BytePipe

/-- An operation that would block is tried again after a pause, an interrupted one at once. -/
def ChannelError.isRetried : ChannelError → Bool
  | wouldBlock => true
  | e => e.isRestartable

/-- Given the results that successive attempts would have: how many attempts are made, and the
result of the last. Nothing comes of it while every attempt has to be repeated. -/
def retry {α : Type} : List (Except ChannelError α) → Option (Nat × Except ChannelError α)
  | [] => none
  | .error e :: later =>
    if e.isRetried then (retry later).map fun (n, result) => (n + 1, result)
    else some (1, .error e)
  | result :: _ => some (1, result)

/-- The result is the first that is not repeated, and all attempts before it were. -/
theorem retry_eq_some_iff {α : Type} {results : List (Except ChannelError α)} {n : Nat}
    {result : Except ChannelError α} :
    retry results = some (n, result) ↔
      ∃ (repeated : List ChannelError) (later : List (Except ChannelError α)),
        results = repeated.map .error ++ result :: later ∧ repeated.length + 1 = n ∧
        (∀ e ∈ repeated, e.isRetried = true) ∧ ∀ e, result = .error e → e.isRetried = false := by
  induction results generalizing n with
  | nil => simp [retry]
  | cons first rest ih =>
    constructor
    · intro h
      unfold retry at h
      split at h
      · contradiction
      · rename_i e later eq
        obtain ⟨rfl, rfl⟩ := List.cons.inj eq
        split at h
        · rename_i again
          obtain ⟨⟨m, r⟩, found, pair⟩ := Option.map_eq_some_iff.mp h
          obtain ⟨rfl, rfl⟩ := Prod.mk.inj pair
          obtain ⟨repeated, tail, split, count, all, last⟩ := ih.mp found
          refine ⟨e :: repeated, tail, by rw [split]; rfl, by rw [← count]; rfl, ?_, last⟩
          intro x member
          rcases List.mem_cons.mp member with rfl | old
          · exact again
          · exact all x old
        · rename_i stop
          obtain ⟨rfl, rfl⟩ := Prod.mk.inj (Option.some.inj h)
          refine ⟨[], rest, rfl, rfl, by simp, fun x eq => ?_⟩
          rw [← Except.error.inj eq]
          exact Bool.eq_false_iff.mpr stop
      · rename_i r tail kept eq
        obtain ⟨rfl, rfl⟩ := List.cons.inj eq
        obtain ⟨rfl, rfl⟩ := Prod.mk.inj (Option.some.inj h)
        refine ⟨[], rest, rfl, rfl, by simp, fun x eq => ?_⟩
        exact absurd eq (kept x)
    · rintro ⟨repeated, later, split, count, all, last⟩
      cases repeated with
      | nil =>
        obtain ⟨rfl, rfl⟩ := List.cons.inj split
        subst count
        cases first with
        | error e => simp [retry, last e rfl]
        | ok a => rfl
      | cons e repeated =>
        obtain ⟨rfl, rest_eq⟩ := List.cons.inj split
        have inner := ih.mpr ⟨repeated, later, rest_eq, rfl,
          fun x member => all x (List.mem_cons_of_mem _ member), last⟩
        subst count
        simp [retry, all e List.mem_cons_self, inner]

end BytePipe
