import BroadcastGraphics.Json.Basic
import BroadcastGraphics.Validation.Issue

/-!
# Results of checks

A check accepts a value or refuses it with all the issues it found.  Independent checks are
combined so that the issues of each are kept, in the order of the checks; a check that needs the
result of another one runs only after that one has accepted.
-/

namespace BroadcastGraphics

/-- Two steps that succeed succeed one after the other. -/
theorem ok_of_bind
    {ε α β : Type}
    {first : Except ε α}
    {next : α -> Except ε β}
    {value : β}
    (done : (first >>= next) = .ok value) :
    ∃ middle, first = .ok middle ∧ next middle = .ok value := by
  cases first with
  | error fault => cases done
  | ok middle => exact ⟨middle, rfl, done⟩

/-- An accepted value, or the issues for which it was refused. -/
inductive Checked (α : Type) where
  | accepted (value : α)
  | refused (issues : List Issue)
  deriving Repr

namespace Checked

variable {α β : Type}

/-- Change an accepted value. -/
def map (change : α -> β) : Checked α -> Checked β
  | accepted value => accepted (change value)
  | refused issues => refused issues

/-- Combine two independent checks, keeping the issues of both. -/
def apply : Checked (α -> β) -> Checked α -> Checked β
  | accepted change, accepted value => accepted (change value)
  | accepted _, refused issues => refused issues
  | refused issues, accepted _ => refused issues
  | refused first, refused second => refused (first ++ second)

/-- Check an accepted value further. -/
def andThen (first : Checked α) (next : α -> Checked β) : Checked β :=
  match first with
  | accepted value => next value
  | refused issues => refused issues

instance : Applicative Checked where
  pure := accepted
  map := map
  seq change value := apply change (value ())

/-- A refusal at the value itself. -/
def refuse (cause : Cause) : Checked α :=
  refused [⟨[], cause⟩]

/-- The result of a check of a part, its issues placed under the step to that part. -/
def under (step : Step) : Checked α -> Checked α
  | accepted value => accepted value
  | refused issues => refused (issues.map (Issue.under step))

/-- The accepted value, if there is one. -/
def value? : Checked α -> Option α
  | accepted value => some value
  | refused _ => none

@[simp] theorem map_accepted_iff (change : α -> β) (result : Checked α) (value : β) :
    (change <$> result) = accepted value ↔
      ∃ inner, result = accepted inner ∧ change inner = value := by
  cases result <;> simp [Functor.map, map]

/-- A combination is accepted exactly when both parts are. -/
@[simp] theorem seq_accepted_iff (change : Checked (α -> β)) (result : Checked α) (value : β) :
    (change <*> result) = accepted value ↔
      ∃ function inner, change = accepted function ∧ result = accepted inner ∧
        function inner = value := by
  cases change <;> cases result <;> simp [Seq.seq, apply]

@[simp] theorem under_accepted_iff (step : Step) (result : Checked α) (value : α) :
    result.under step = accepted value ↔ result = accepted value := by
  cases result <;> simp [under]

@[simp] theorem andThen_accepted_iff (first : Checked α) (next : α -> Checked β) (value : β) :
    first.andThen next = accepted value ↔
      ∃ inner, first = accepted inner ∧ next inner = accepted value := by
  cases first <;> simp [andThen]

/-- Check the items of a list, the first having a given index. -/
def items (check : Json -> Checked α) (index : Nat) : List Json -> Checked (List α)
  | [] => accepted []
  | item :: rest =>
      List.cons <$> (check item).under (.item index) <*> items check (index + 1) rest

/-- Check the entries of a table. -/
def entries (check : Json -> Checked α) : Table Json -> Checked (Table α)
  | [] => accepted []
  | (name, value) :: rest =>
      (fun value rest => (name, value) :: rest) <$> (check value).under (.member name) <*>
        entries check rest

end Checked
end BroadcastGraphics
