import BroadcastGraphics.Playback

/-!
# Commands for a graphic

Everything that can be asked of a live graphic as values, so that runs of commands can be recorded,
replayed and reasoned about.
-/

namespace BroadcastGraphics
namespace Playback

/-- A command for a graphic. -/
inductive Command where
  | load
  | dispose
  | play (skip : Bool)
  | stop (skip : Bool)
  | update (data : Json)
  | custom (action : String)
  | replaceContent (elements : List Element) (animation : Option AnimationSettings)

/-- Carry out a command for the graphic with a number. -/
def run (graphic : Nat) (playback : Playback) (schedule : Schedule) :
    Command -> (Playback × Schedule) × Completion
  | .load => playback.load schedule
  | .dispose => playback.dispose schedule
  | .play skip => playback.play graphic skip schedule
  | .stop skip => playback.stop graphic skip schedule
  | .update data => playback.update data schedule
  | .custom action => playback.custom graphic action schedule
  | .replaceContent elements animation =>
      ((playback.replaceContent elements animation, schedule), .settled .completed)

end Playback
end BroadcastGraphics
