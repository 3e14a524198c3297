import BroadcastGraphics.Template.Call

/-!
# Listeners of a template

Whoever keeps something that depends on a template subscribes to it and is told of every change that
an edit announces.  A listener that subscribes twice is told once.
-/

namespace BroadcastGraphics
namespace Template

/-- A template with its listeners in the order in which they subscribed, and the listeners it has
told of a change so far, one entry for each time. -/
structure Followed (Listener : Type) where
  template : Template
  listeners : List Listener := []
  told : List Listener := []

/-- What can happen to a template that is followed. -/
inductive Event (Listener : Type) where
  | subscribe (listener : Listener)
  | unsubscribe (listener : Listener)
  | call (request : Call)

namespace Followed

variable {Listener : Type} [DecidableEq Listener]

/-- Add a listener unless it is there already. -/
def subscribe (followed : Followed Listener) (listener : Listener) : Followed Listener :=
  if listener ∈ followed.listeners then followed
  else { followed with listeners := followed.listeners ++ [listener] }

/-- Take a listener away if it is there. -/
def unsubscribe (followed : Followed Listener) (listener : Listener) : Followed Listener :=
  { followed with listeners := followed.listeners.erase listener }

/-- Carry out a call, and tell the listeners if it announces a change. -/
def call (followed : Followed Listener) (request : Call) : Followed Listener :=
  let edit := followed.template.run request
  { followed with
    template := edit.template
    told := if edit.announced then followed.told ++ followed.listeners else followed.told }

/-- Let something happen to the template. -/
def step (followed : Followed Listener) : Event Listener -> Followed Listener
  | .subscribe listener => followed.subscribe listener
  | .unsubscribe listener => followed.unsubscribe listener
  | .call request => followed.call request

/-- Let some things happen one after the other. -/
def run (followed : Followed Listener) (events : List (Event Listener)) : Followed Listener :=
  events.foldl step followed

end Followed
end Template
end BroadcastGraphics
