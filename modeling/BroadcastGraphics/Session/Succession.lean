import BroadcastGraphics.Session.Command

/-!
# Sessions that follow each other

A session can end and another one begin over the same store.  Templates of an earlier session can
still be edited: the earlier session follows the change and writes it to the store that the later
one uses.
-/

namespace BroadcastGraphics

/-- Sessions over one store, the present one first. -/
structure Succession where
  present : Session
  past : List Session := []

namespace Succession

/-- The store that all sessions use. -/
def store (succession : Succession) : Store :=
  succession.present.store

/-- Change the store that all sessions use. -/
def withStore (succession : Succession) (store : Store) : Succession :=
  { succession with present := { succession.present with store := store } }

/-- The number of the present session, counted from the oldest one. -/
def presentNumber (succession : Succession) : Nat :=
  succession.past.length

/-- Do something in the present session. -/
def act {α : Type} (succession : Succession) (action : Session.Action α) :
    Except Fault α × Succession :=
  let (outcome, present) := action.run.run succession.present
  (outcome, { succession with present := present })

/-- Do something in the session with a number, over the present store. -/
def actIn {α : Type} (succession : Succession) (number : Nat) (action : Session.Action (Option α)) :
    Except Fault (Option α) × Succession :=
  if number = succession.presentNumber then succession.act action
  else match succession.past.reverse[number]? with
    | none => (.ok none, succession)
    | some session =>
        let (outcome, session) := action.run.run { session with store := succession.store }
        (outcome, { (succession.withStore session.store) with
          past := (succession.past.reverse.set number session).reverse })

/-- The session with a number. -/
def session? (succession : Succession) (number : Nat) : Option Session :=
  if number = succession.presentNumber then some succession.present
  else succession.past.reverse[number]?

/-- Begin another session over the store. -/
def restart (succession : Succession) : Except Fault Unit × Succession :=
  let (outcome, next) := Session.opened succession.present.config succession.store
  (outcome, ⟨next, succession.present :: succession.past⟩)

end Succession
end BroadcastGraphics
