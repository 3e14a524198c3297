import BroadcastGraphics.Proofs.SessionAction
import BroadcastGraphics.Proofs.TimelineLoop
import BroadcastGraphics.Stage

/-!
# The content of previews

A graphic gets its elements and its settings when it is mounted, and others when the edited content
of its template is given to it.  No command changes them, and no movement that comes to its end.
-/

namespace BroadcastGraphics

/-- What a graphic is made of. -/
def Playback.content (playback : Playback) : List Element × AnimationSettings :=
  (playback.elements, playback.settings)

/-- What graphics of a template are made of. -/
def Template.content (template : Template) : List Element × AnimationSettings :=
  (template.elements, template.effectiveAnimation)

namespace Playback

variable (playback : Playback)

@[simp] theorem content_cleared : playback.cleared.content = playback.content := rfl

@[simp] theorem content_hidden : playback.hidden.content = playback.content := rfl

theorem content_withMarkup
    (markup : String) :
    ({ playback with markup := markup } : Playback).content = playback.content := rfl

@[simp] theorem content_posed
    (pose : Pose) : (playback.posed pose).content = playback.content :=
  content_withMarkup { playback with pose := pose, history := playback.history ++ [pose] } _

@[simp] theorem content_refreshed : playback.refreshed.content = playback.content := by
  rw [refreshed, apply_ite content, content_withMarkup, ite_self]

@[simp] theorem content_interrupt
    (schedule : Schedule) :
    (playback.interrupt schedule).1.content = playback.content := rfl

theorem content_beginMovement
    (graphic : Nat)
    (ending : Ending)
    (schedule : Schedule)
    (delay : Option Binary64) :
    (playback.beginMovement graphic ending schedule delay).1.1.content = playback.content := by
  cases delay <;> rfl

@[simp] theorem content_startMovement
    (graphic : Nat)
    (duration : Int)
    (ending : Ending)
    (schedule : Schedule) :
    (playback.startMovement graphic duration ending schedule).1.1.content = playback.content :=
  playback.content_beginMovement graphic ending schedule _

@[simp] theorem content_replaceContent
    (elements : List Element)
    (settings : Option AnimationSettings) :
    (playback.replaceContent elements settings).content =
      (elements, settings.getD .standard) := by
  unfold replaceContent
  rw [content_refreshed]
  rfl

theorem content_load
    (schedule : Schedule) : (playback.load schedule).1.1.content = playback.content := rfl

theorem content_dispose
    (schedule : Schedule) : (playback.dispose schedule).1.1.content = playback.content := rfl

theorem content_play
    (graphic : Nat)
    (skip : Bool)
    (schedule : Schedule) :
    (playback.play graphic skip schedule).1.1.content = playback.content := by
  unfold play
  split
  · rfl
  dsimp only
  split
  · rw [content_posed]
    rfl
  · rw [content_startMovement, content_posed, content_posed]
    rfl

theorem content_stop
    (graphic : Nat)
    (skip : Bool)
    (schedule : Schedule) :
    (playback.stop graphic skip schedule).1.1.content = playback.content := by
  unfold stop
  split
  · rfl
  dsimp only
  split
  · rfl
  split
  · rfl
  · rw [content_startMovement, content_posed]
    rfl

theorem content_update
    (data : Json)
    (schedule : Schedule) :
    (playback.update data schedule).1.1.content = playback.content := by
  unfold update
  split
  · rfl
  dsimp only
  split
  · rw [content_refreshed]
    rfl
  · rfl

theorem content_custom
    (graphic : Nat)
    (action : String)
    (schedule : Schedule) :
    (playback.custom graphic action schedule).1.1.content = playback.content := by
  unfold custom
  split
  · exact playback.content_play graphic false schedule
  split
  · exact playback.content_stop graphic false schedule
  · rfl

theorem content_finish
    (cue : Cue)
    (schedule : Schedule) :
    (playback.finish cue schedule).1.content = playback.content := by
  unfold finish
  split
  · cases cue.ending <;> rfl
  · rfl

end Playback

/-- A value put in the place of another one makes no difference to what is seen of the values if the
same is seen of both. -/
theorem map_set_of_same
    {α β : Type}
    {seen : α -> β}
    {values : List α}
    {number : Nat}
    {before after : α}
    (present : values[number]? = some before)
    (same : seen after = seen before) :
    (values.set number after).map seen = values.map seen := by
  refine List.ext_getElem? fun place => ?_
  rw [List.getElem?_map, List.getElem?_map, List.getElem?_set]
  split
  · rename_i here
    rw [← here, present]
    split
    · exact congrArg some same
    · rename_i outside
      exact absurd (List.getElem?_eq_some_iff.1 present).1 outside
  · rfl

namespace Troupe

/-- What the graphics are made of, in the order of their numbers. -/
def contents (troupe : Troupe) : List (List Element × AnimationSettings) :=
  troupe.graphics.map Playback.content

theorem contents_change
    (troupe : Troupe)
    (number : Nat)
    {command : Playback -> Schedule -> (Playback × Schedule) × Completion}
    (keeps : ∀ playback schedule, (command playback schedule).1.1.content = playback.content) :
    (troupe.change number command).1.contents = troupe.contents := by
  unfold change
  split
  · rfl
  · rename_i playback present
    exact map_set_of_same present (keeps playback troupe.schedule)

/-- A command that gives a graphic another content changes nothing else. -/
theorem contents_change_set
    (troupe : Troupe)
    (number : Nat)
    {command : Playback -> Schedule -> (Playback × Schedule) × Completion}
    {content : List Element × AnimationSettings}
    (gives : ∀ playback schedule, (command playback schedule).1.1.content = content) :
    (troupe.change number command).1.contents = troupe.contents.set number content := by
  unfold change
  split
  · rename_i absent
    refine (List.set_eq_of_length_le ?_).symm
    rw [contents, List.length_map]
    exact List.getElem?_eq_none_iff.1 absent
  · rename_i playback present
    refine List.map_set.trans ?_
    rw [gives playback troupe.schedule]
    rfl

/-- The end of a movement leaves all contents alone. -/
theorem contents_finish
    (timer : Timer Cue)
    (world : Timeline Cue × List Playback × List (Option Outcome)) :
    (finish timer world).2.1.map Playback.content = world.2.1.map Playback.content := by
  obtain ⟨timeline, graphics, outcomes⟩ := world
  unfold finish
  dsimp only
  split
  · rfl
  · rename_i playback present
    exact map_set_of_same present (playback.content_finish _ _)

theorem contents_takeNext
    (troupe : Troupe) : troupe.takeNext.contents = troupe.contents := by
  let Same (world : Timeline Cue × List Playback × List (Option Outcome)) : Prop :=
    world.2.1.map Playback.content = troupe.contents
  have kept : Same (Timeline.runAll finish neverStopped 1 troupe.world).2 := by
    refine Timeline.fireDue_induction (fun world timer others same _ _ => ?_) 1 troupe.world rfl
    unfold Timeline.turn
    dsimp only
    split
    · exact same
    · exact (contents_finish timer _).trans same
  exact kept

theorem contents_waitFor
    (completion : Completion)
    (steps : Nat)
    (troupe : Troupe) : (waitFor completion steps troupe).contents = troupe.contents := by
  induction steps generalizing troupe with
  | zero => rfl
  | succ steps ih =>
    unfold waitFor
    split
    · rfl
    · rw [ih, contents_takeNext]

end Troupe

namespace Stage

/-- What the graphics are made of, in the order of their numbers. -/
def contents (stage : Stage) : List (List Element × AnimationSettings) :=
  stage.troupe.contents

/-- What the graphic mounted for a template is made of. -/
def content? (stage : Stage) (id : String) : Option (List Element × AnimationSettings) :=
  (stage.playback? id).map Playback.content

/-- The same graphics are mounted, and they are made of the same. -/
structure Alike (before after : Stage) : Prop where
  mounted : after.mounted = before.mounted
  contents : after.contents = before.contents

theorem Alike.refl (stage : Stage) : Alike stage stage :=
  ⟨rfl, rfl⟩

theorem Alike.trans
    {first second third : Stage}
    (one : Alike first second)
    (two : Alike second third) : Alike first third :=
  ⟨two.mounted.trans one.mounted, two.contents.trans one.contents⟩

theorem content?_eq
    (stage : Stage)
    (id : String) :
    stage.content? id = (Table.get? stage.mounted id).bind fun number => stage.contents[number]? := by
  unfold content? playback? number? contents Troupe.contents Troupe.graphic?
  cases Table.get? stage.mounted id with
  | none => rfl
  | some number => exact List.getElem?_map.symm

theorem Alike.content?_eq
    {before after : Stage}
    (alike : Alike before after)
    (id : String) : after.content? id = before.content? id := by
  rw [Stage.content?_eq, Stage.content?_eq, alike.mounted, alike.contents]

/-! ## Commands -/

section Commands

variable (stage : Stage)

theorem alike_change
    (number : Nat)
    {command : Playback -> Schedule -> (Playback × Schedule) × Completion}
    (keeps : ∀ playback schedule, (command playback schedule).1.1.content = playback.content) :
    Alike stage (stage.change number command).1 :=
  ⟨rfl, stage.troupe.contents_change number keeps⟩

theorem alike_replay
    (id : String)
    (number : Nat) : Alike stage (stage.replay id number) := by
  unfold replay
  dsimp only
  split
  · exact Alike.refl stage
  · exact stage.alike_change number fun playback => playback.content_update _

theorem alike_ensureLoaded
    (id : String)
    (number : Nat) : Alike stage (stage.ensureLoaded id number) := by
  unfold ensureLoaded
  split
  · split
    · have loaded := stage.alike_change number Playback.content_load
      exact loaded.trans (alike_replay _ id number)
    · exact Alike.refl stage
  · exact Alike.refl stage

variable {stage} {id : String} {after : Stage} {completion : Completion}

theorem alike_load
    (done : stage.load id = .ok (after, completion)) : Alike stage after := by
  obtain ⟨number, _, done⟩ := ok_of_bind done
  cases done
  exact (stage.alike_change number Playback.content_load).trans (alike_replay _ id number)

theorem alike_dispose
    (done : stage.dispose id = .ok (after, completion)) : Alike stage after := by
  obtain ⟨number, _, done⟩ := ok_of_bind done
  cases done
  exact stage.alike_change number Playback.content_dispose

theorem alike_play
    {skip : Bool}
    (done : stage.play id skip = .ok (after, completion)) : Alike stage after := by
  obtain ⟨number, _, done⟩ := ok_of_bind done
  cases done
  exact (stage.alike_ensureLoaded id number).trans
    (alike_change _ number fun playback => playback.content_play number skip)

theorem alike_stop
    {skip : Bool}
    (done : stage.stop id skip = .ok (after, completion)) : Alike stage after := by
  obtain ⟨number, _, done⟩ := ok_of_bind done
  dsimp only at done
  split at done
  · cases done
    exact stage.alike_change number fun playback => playback.content_stop number skip
  · cases done
    exact Alike.refl stage

theorem alike_update
    (data : Json)
    (done : stage.update id data = .ok (after, completion)) : Alike stage after := by
  obtain ⟨number, _, done⟩ := ok_of_bind done
  dsimp only at done
  split at done
  · cases done
    exact ⟨rfl, Troupe.contents_change _ number fun playback => playback.content_update data⟩
  · cases done
    exact ⟨rfl, rfl⟩

theorem alike_custom
    {action : String}
    (done : stage.custom id action = .ok (after, completion)) : Alike stage after := by
  obtain ⟨number, _, done⟩ := ok_of_bind done
  cases done
  exact (stage.alike_ensureLoaded id number).trans
    (alike_change _ number fun playback => playback.content_custom number action)

theorem alike_waitFor
    (stage : Stage)
    (completion : Completion) : Alike stage (stage.waitFor completion) :=
  ⟨rfl, Troupe.contents_waitFor completion _ stage.troupe⟩

end Commands

/-! ## Mounting -/

/-- Every mounted graphic is there, and no graphic is mounted for two templates. -/
structure Sound (stage : Stage) : Prop where
  inRange : ∀ {id number}, stage.number? id = some number -> number < stage.contents.length
  single : ∀ {first second number},
    stage.number? first = some number -> stage.number? second = some number -> first = second

section Mounting

variable {stage : Stage}

theorem sound_empty : Sound {} :=
  ⟨fun mounted => (nomatch mounted), fun mounted => (nomatch mounted)⟩

/-- Only what is mounted matters for soundness, and how many graphics there are. -/
theorem Sound.congr
    {after : Stage}
    (sound : stage.Sound)
    (mounted : after.mounted = stage.mounted)
    (count : after.contents.length = stage.contents.length) : after.Sound := by
  constructor
  · intro id number isMounted
    rw [count]
    unfold number? at isMounted
    rw [mounted] at isMounted
    exact sound.inRange isMounted
  · intro first second number isFirst isSecond
    unfold number? at isFirst isSecond
    rw [mounted] at isFirst isSecond
    exact sound.single isFirst isSecond

theorem Alike.sound
    {after : Stage}
    (alike : Alike stage after)
    (sound : stage.Sound) : after.Sound :=
  sound.congr alike.mounted (congrArg List.length alike.contents)

/-- A graphic is mounted exactly where there is something that it is made of. -/
theorem Sound.isMounted_iff
    (sound : stage.Sound)
    (id : String) : stage.isMounted id = true ↔ ∃ content, stage.content? id = some content := by
  rw [content?_eq, isMounted, Option.isSome_iff_exists]
  constructor
  · rintro ⟨number, mounted⟩
    have present := List.getElem?_eq_getElem (sound.inRange mounted)
    exact ⟨_, (congrArg (Option.bind · _) mounted).trans present⟩
  · rintro ⟨content, found⟩
    obtain ⟨number, mounted, _⟩ := Option.bind_eq_some_iff.1 found
    exact ⟨number, mounted⟩

theorem mounted_withdraw
    (stage : Stage)
    (id : String) : (stage.withdraw id).mounted = Table.remove stage.mounted id := by
  unfold withdraw number?
  split
  · rfl
  · rename_i free
    exact (Table.remove_of_notMem ((Table.get?_eq_none_iff _ _).1 free)).symm

theorem contents_withdraw
    (stage : Stage)
    (id : String) : (stage.withdraw id).contents = stage.contents := by
  unfold withdraw
  split
  · exact Troupe.contents_change _ _ Playback.content_dispose
  · rfl

theorem length_contents (stage : Stage) : stage.contents.length = stage.troupe.graphics.length :=
  List.length_map _

theorem length_graphics_withdraw
    (stage : Stage)
    (id : String) :
    (stage.withdraw id).troupe.graphics.length = stage.troupe.graphics.length := by
  rw [← length_contents, ← length_contents, contents_withdraw]

theorem number?_withdraw
    (stage : Stage)
    (id other : String) :
    (stage.withdraw id).number? other = if id = other then none else stage.number? other := by
  unfold number?
  rw [mounted_withdraw, Table.get?_remove]

/-- Nothing is mounted any more for the template, and everything as before for the others. -/
theorem content?_withdraw
    (stage : Stage)
    (id other : String) :
    (stage.withdraw id).content? other = if id = other then none else stage.content? other := by
  rw [content?_eq, content?_eq, mounted_withdraw, contents_withdraw, Table.get?_remove]
  split <;> rfl

theorem Sound.withdraw
    (sound : stage.Sound)
    (id : String) : (stage.withdraw id).Sound := by
  constructor
  · intro other number mounted
    rw [number?_withdraw] at mounted
    rw [contents_withdraw]
    split at mounted
    · cases mounted
    · exact sound.inRange mounted
  · intro first second number isFirst isSecond
    rw [number?_withdraw] at isFirst isSecond
    split at isFirst
    · cases isFirst
    split at isSecond
    · cases isSecond
    · exact sound.single isFirst isSecond

theorem unmount_eq
    (stage : Stage)
    (id : String) :
    (stage.unmount id).1 =
      ({ stage with previewData := Table.remove stage.previewData id } : Stage).withdraw id :=
  rfl

theorem content?_unmount
    (stage : Stage)
    (id other : String) :
    (stage.unmount id).1.content? other = if id = other then none else stage.content? other :=
  content?_withdraw _ id other

theorem Sound.unmount
    (sound : stage.Sound)
    (id : String) : (stage.unmount id).1.Sound := by
  have alike : Alike stage { stage with previewData := Table.remove stage.previewData id } :=
    ⟨rfl, rfl⟩
  exact (alike.sound sound).withdraw id

theorem mounted_mount
    (stage : Stage)
    (template : Template) :
    (stage.mount template).1.mounted =
      Table.put (Table.remove stage.mounted template.id) template.id stage.contents.length := by
  let registered : Stage := { stage with
    registry := (stage.registry.register (Naming.tagName template.id)
      (Naming.componentClassName template.id)).1 }
  have count : (registered.withdraw template.id).troupe.graphics.length = stage.contents.length :=
    (length_graphics_withdraw registered template.id).trans stage.length_contents.symm
  change Table.put (registered.withdraw template.id).mounted template.id
    (registered.withdraw template.id).troupe.graphics.length = _
  rw [mounted_withdraw, count]

theorem contents_mount
    (stage : Stage)
    (template : Template) :
    (stage.mount template).1.contents = stage.contents ++ [template.content] := by
  have before := contents_withdraw { stage with
    registry := (stage.registry.register (Naming.tagName template.id)
      (Naming.componentClassName template.id)).1 } template.id
  exact List.map_append.trans (congrArg (· ++ [template.content]) before)

theorem number?_mount
    (stage : Stage)
    (template : Template)
    (other : String) :
    (stage.mount template).1.number? other =
      if template.id = other then some stage.troupe.graphics.length else stage.number? other := by
  rw [number?, mounted_mount, length_contents, Table.get?_put, Table.get?_remove]
  split <;> rfl

/-- What is mounted for the template shows its content, and everything is as before for the
others. -/
theorem content?_mount
    (sound : stage.Sound)
    (template : Template)
    (other : String) :
    (stage.mount template).1.content? other =
      if template.id = other then some template.content else stage.content? other := by
  rw [content?_eq, content?_eq, mounted_mount, contents_mount, Table.get?_put, Table.get?_remove]
  split
  · exact List.getElem?_concat_length
  · cases mounted : Table.get? stage.mounted other with
    | none => rfl
    | some number => exact List.getElem?_append_left (sound.inRange mounted)

theorem Sound.mount
    (sound : stage.Sound)
    (template : Template) : (stage.mount template).1.Sound := by
  constructor
  · intro id number mounted
    rw [number?_mount, ← length_contents] at mounted
    rw [contents_mount, List.length_append]
    split at mounted
    · cases mounted
      exact Nat.lt_succ_self _
    · exact Nat.lt_succ_of_lt (sound.inRange mounted)
  · intro first second number isFirst isSecond
    rw [number?_mount, ← length_contents] at isFirst isSecond
    split at isFirst <;> split at isSecond
    · rename_i here there
      exact here.symm.trans there
    · cases isFirst
      exact absurd (sound.inRange isSecond) (Nat.lt_irrefl _)
    · cases isSecond
      exact absurd (sound.inRange isFirst) (Nat.lt_irrefl _)
    · exact sound.single isFirst isSecond

/-- A mounted graphic takes over the content of its template. -/
theorem refresh_of_mounted
    {template : Template}
    {number : Nat}
    (mounted : stage.number? template.id = some number) :
    (stage.refresh template).1.mounted = stage.mounted ∧
      (stage.refresh template).1.contents = stage.contents.set number template.content := by
  let command (playback : Playback) (schedule : Schedule) :
      (Playback × Schedule) × Completion :=
    ((playback.replaceContent template.elements template.animation, schedule),
      .settled .completed)
  have given := @Troupe.contents_change_set stage.troupe number command _
    fun playback _ => playback.content_replaceContent template.elements template.animation
  simp only [refresh, mounted]
  exact ⟨rfl, given⟩

theorem content?_refresh
    {template : Template}
    (sound : stage.Sound)
    (mounted : stage.isMounted template.id = true)
    (other : String) :
    (stage.refresh template).1.content? other =
      if template.id = other then some template.content else stage.content? other := by
  obtain ⟨number, isNumber⟩ := Option.isSome_iff_exists.1 mounted
  obtain ⟨sameMounted, contents⟩ := refresh_of_mounted isNumber
  rw [content?_eq, content?_eq, sameMounted, contents]
  split
  · rename_i same
    subst same
    have set := List.getElem?_set_self (a := template.content) (sound.inRange isNumber)
    exact (congrArg (Option.bind · _) isNumber).trans set
  · rename_i isOther
    cases otherMounted : Table.get? stage.mounted other with
    | none => rfl
    | some place =>
      refine List.getElem?_set_ne fun same => isOther ?_
      exact sound.single isNumber (same ▸ otherMounted)

theorem Sound.refresh
    {template : Template}
    (sound : stage.Sound)
    (mounted : stage.isMounted template.id = true) : (stage.refresh template).1.Sound := by
  obtain ⟨number, isNumber⟩ := Option.isSome_iff_exists.1 mounted
  obtain ⟨sameMounted, contents⟩ := refresh_of_mounted isNumber
  constructor
  · intro id other isMounted
    rw [number?, sameMounted] at isMounted
    rw [contents, List.length_set]
    exact sound.inRange isMounted
  · intro first second other isFirst isSecond
    rw [number?, sameMounted] at isFirst isSecond
    exact sound.single isFirst isSecond

end Mounting

end Stage
end BroadcastGraphics
