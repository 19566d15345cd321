import Mathlib.Tactic.Common

/-!
# One row under row locks and READ COMMITTED

The row of one unique key, as concurrent transactions see it. `committed` is the
latest committed version. A transaction that has locked, updated or inserted the row
owns it until it ends; `working` is the version it sees and will commit. A statement
that has to wait for the owner is `none`. Rows are never deleted.
-/

namespace Shared.RowLocks

set_option autoImplicit false

universe u v

variable {τ : Type u} {ρ : Type v}

structure Row (τ : Type u) (ρ : Type v) where
  committed : Option ρ
  owner : Option τ
  working : Option ρ

namespace Row

def stored (committed : Option ρ) : Row τ ρ := ⟨committed, none, none⟩

def take (t : τ) (version : ρ) (r : Row τ ρ) : Row τ ρ :=
  { r with owner := some t, working := some version }

/-- Nobody else owns the row. -/
def Available (t : τ) (r : Row τ ρ) : Prop := r.owner = none ∨ r.owner = some t

@[simp] theorem take_owner (t : τ) (version : ρ) (r : Row τ ρ) :
    (r.take t version).owner = some t := rfl

/-- A row that is free for one transaction is owned by no other. -/
theorem owner_of_available {r : Row τ ρ} {t t' : τ} (ha : r.Available t) (hne : t' ≠ t) :
    r.owner ≠ some t' := by
  intro h
  rcases ha with hnone | hsome
  · rw [h] at hnone
    cases hnone
  · rw [h] at hsome
    exact hne (Option.some.inj hsome)

variable [DecidableEq τ]

instance (t : τ) (r : Row τ ρ) : Decidable (r.Available t) :=
  inferInstanceAs (Decidable (r.owner = none ∨ r.owner = some t))

/-- The version a statement of the transaction finds. -/
def visible (t : τ) (r : Row τ ρ) : Option ρ :=
  if r.owner = some t then r.working else r.committed

/-- `SELECT ... FOR UPDATE`: an uncommitted insert of another transaction is not
found; a row that is found is locked. -/
def selectForUpdate (t : τ) (r : Row τ ρ) : Option (Option ρ × Row τ ρ) :=
  match r.visible t with
  | none => some (none, r)
  | some version => if r.Available t then some (some version, r.take t version) else none

/-- `INSERT ... ON CONFLICT DO NOTHING`, with whether it inserted. -/
def insertOrNothing (t : τ) (version : ρ) (r : Row τ ρ) : Option (Bool × Row τ ρ) :=
  match r.visible t with
  | some _ => some (false, r)
  | none => if r.Available t then some (true, r.take t version) else none

/-- `UPDATE` of the row, if there is one. -/
def update (t : τ) (version : ρ) (r : Row τ ρ) : Option (Row τ ρ) :=
  match r.visible t with
  | none => some r
  | some _ => if r.Available t then some (r.take t version) else none

/-- `INSERT ... ON CONFLICT DO UPDATE SET ... WHERE ... RETURNING`: `change` is `none`
where the condition fails; the row is locked all the same. -/
def upsert (t : τ) (version : ρ) (change : ρ → Option ρ) (r : Row τ ρ) :
    Option (Option ρ × Row τ ρ) :=
  if r.Available t then
    match r.visible t with
    | none => some (some version, r.take t version)
    | some found =>
      match change found with
      | some changed => some (some changed, r.take t changed)
      | none => some (none, r.take t found)
  else none

def commit (t : τ) (r : Row τ ρ) : Row τ ρ :=
  if r.owner = some t then stored r.working else r

def rollback (t : τ) (r : Row τ ρ) : Row τ ρ :=
  if r.owner = some t then stored r.committed else r

variable {r r' : Row τ ρ} {t : τ}

theorem visible_owner (h : r.owner = some t) : r.visible t = r.working := by
  simp [visible, h]

theorem visible_other (h : r.owner ≠ some t) : r.visible t = r.committed := by
  simp [visible, h]

theorem commit_owner (h : r.owner = some t) : r.commit t = stored r.working := if_pos h

theorem commit_other (h : r.owner ≠ some t) : r.commit t = r := if_neg h

theorem rollback_owner (h : r.owner = some t) : r.rollback t = stored r.committed := if_pos h

theorem rollback_other (h : r.owner ≠ some t) : r.rollback t = r := if_neg h

/-- The end of a transaction leaves the row to its owner, if that is another one. -/
theorem owner_commit {t' : τ} (h : (r.commit t).owner = some t') : t' ≠ t ∧ r.owner = some t' := by
  unfold commit at h
  split at h
  · cases h
  · rename_i hne
    refine ⟨?_, h⟩
    intro heq
    subst heq
    exact hne h

theorem owner_rollback {t' : τ} (h : (r.rollback t).owner = some t') :
    t' ≠ t ∧ r.owner = some t' := by
  unfold rollback at h
  split at h
  · cases h
  · rename_i hne
    refine ⟨?_, h⟩
    intro heq
    subst heq
    exact hne h

@[simp] theorem rollback_committed (t : τ) (r : Row τ ρ) :
    (r.rollback t).committed = r.committed := by
  unfold rollback
  split <;> rfl

/-- A select finds nothing and does nothing, or it finds the row and owns it. -/
theorem selectForUpdate_cases {found : Option ρ} (h : r.selectForUpdate t = some (found, r')) :
    (found = none ∧ r.visible t = none ∧ r' = r) ∨
    (∃ version, found = some version ∧ r.visible t = some version ∧ r.Available t ∧
      r' = r.take t version) := by
  unfold selectForUpdate at h
  split at h
  · rename_i hv
    cases h
    exact Or.inl ⟨rfl, hv, rfl⟩
  · rename_i version hv
    split at h
    · rename_i ha
      cases h
      exact Or.inr ⟨version, rfl, hv, ha, rfl⟩
    · cases h

theorem insertOrNothing_cases {version : ρ} {inserted : Bool}
    (h : r.insertOrNothing t version = some (inserted, r')) :
    (inserted = false ∧ r' = r) ∨
    (inserted = true ∧ r.visible t = none ∧ r.Available t ∧ r' = r.take t version) := by
  unfold insertOrNothing at h
  split at h
  · cases h
    exact Or.inl ⟨rfl, rfl⟩
  · rename_i hv
    split at h
    · rename_i ha
      cases h
      exact Or.inr ⟨rfl, hv, ha, rfl⟩
    · cases h

theorem upsert_cases {version : ρ} {change : ρ → Option ρ} {returned : Option ρ}
    (h : r.upsert t version change = some (returned, r')) :
    r.Available t ∧
    ((r.visible t = none ∧ returned = some version ∧ r' = r.take t version) ∨
    (∃ found changed, r.visible t = some found ∧ change found = some changed ∧
      returned = some changed ∧ r' = r.take t changed) ∨
    (∃ found, r.visible t = some found ∧ change found = none ∧ returned = none ∧
      r' = r.take t found)) := by
  unfold upsert at h
  split at h
  · rename_i ha
    refine ⟨ha, ?_⟩
    split at h
    · rename_i hv
      cases h
      exact Or.inl ⟨hv, rfl, rfl⟩
    · rename_i found hv
      split at h
      · rename_i changed hc
        cases h
        exact Or.inr (Or.inl ⟨found, changed, hv, hc, rfl, rfl⟩)
      · rename_i hc
        cases h
        exact Or.inr (Or.inr ⟨found, hv, hc, rfl, rfl⟩)
  · cases h

end Row

end Shared.RowLocks
