import GdoBlaq.Control.Activity
import GdoBlaq.Control.Arbiter
import GdoBlaq.Control.Retries
import GdoBlaq.Data.Stutter

/-!
# What the activity history tells

`activity_record` drops a line that repeats the one before it, so that what happens often does not
push the rest out of the history.  A user who reads the history does not see what was dropped: of
two Opens in a row there is one line.

## Main results

* `ActivityHistory.map_texts_keptEvents` : what is kept of any calls.
* `Activity.readable` : the texts of every line say what it is.
* `toldBy_eq` : nothing is lost where no line repeats the one before it.
* `getLast?_toldBy` : the newest line is never lost.
-/

namespace GdoBlaq

open Firmware

/-! ### Lines that are kept -/

/-- The two texts of an entry. -/
def ActivityEntry.texts (e : ActivityEntry) : CStr × CStr := (e.source, e.message)

namespace ActivityHistory

/-- What a call asks to keep, cut to the size of an entry. -/
def written (note : ActivityNote) : Option (CStr × CStr) :=
  match note.source, note.message with
  | some source, some message =>
    if message = [] then none else some (source.take 23, message.take 127)
  | _, _ => none

section

variable {kept : List ActivityEntry} {note : ActivityNote} {x : CStr × CStr}

theorem keep_of_none (h : written note = none) : keep kept note = kept := by
  unfold written at h
  unfold keep
  cases hsource : note.source with
  | none => rfl
  | some source =>
    cases hmessage : note.message with
    | none => rfl
    | some message =>
      simp only [hsource, hmessage] at h
      split_ifs at h with hempty
      simp [hempty]

theorem keep_of_some (init : List ActivityEntry) (e : ActivityEntry) (h : written note = some x) :
    (keep (init ++ [e]) note = init ++ [e] ∧ e.texts = x) ∨
      ∃ e', keep (init ++ [e]) note = init ++ [e, e'] ∧ e'.texts = x ∧ e.texts ≠ x := by
  unfold written at h
  split at h
  · rename_i source message hsource hmessage
    split_ifs at h with hempty
    obtain rfl := Option.some.inj h
    have hrepeats : repeats (init ++ [e]) source message = true ↔
        e.texts = (source.take 23, message.take 127) := by
      simp [repeats, ActivityEntry.texts, Prod.ext_iff]
    simp only [keep, hsource, hmessage, hempty, false_or]
    by_cases hsame : e.texts = (source.take 23, message.take 127)
    · exact .inl ⟨by rw [if_pos (hrepeats.2 hsame)], hsame⟩
    · exact .inr ⟨_, (if_neg (hrepeats.not.2 hsame)).trans (List.append_assoc ..), rfl, hsame⟩
  · cases h

theorem keep_nil_of_some (h : written note = some x) : ∃ e, keep [] note = [e] ∧ e.texts = x := by
  unfold written at h
  split at h
  · rename_i source message hsource hmessage
    split_ifs at h with hempty
    obtain rfl := Option.some.inj h
    simp [keep, hsource, hmessage, hempty, repeats, ActivityEntry.texts]
  · cases h

theorem map_texts_foldl_keep (init : List ActivityEntry) (e : ActivityEntry)
    (notes : List ActivityNote) :
    (notes.foldl keep (init ++ [e])).map ActivityEntry.texts =
      init.map ActivityEntry.texts ++
        (notes.filterMap written).destutter' (· ≠ ·) e.texts := by
  induction notes generalizing init e with
  | nil => simp
  | cons note notes ih =>
    rw [List.foldl_cons]
    cases hx : written note with
    | none => rw [keep_of_none hx, ih, List.filterMap_cons_none hx]
    | some x =>
      rw [List.filterMap_cons_some hx]
      rcases keep_of_some init e hx with ⟨hkeep, hsame⟩ | ⟨e', hkeep, rfl, hne⟩
      · rw [hkeep, ih, List.destutter'_cons_neg _ (not_not.2 hsame)]
      · have hsplit : init ++ [e, e'] = (init ++ [e]) ++ [e'] := by simp
        rw [hkeep, hsplit, ih, List.destutter'_cons_pos _ hne]
        simp

/-- **What is kept**: of the texts of all calls those that do not repeat the ones before. -/
theorem map_texts_keptEvents (notes : List ActivityNote) :
    (keptEvents notes).map ActivityEntry.texts =
      (notes.filterMap written).destutter (· ≠ ·) := by
  unfold keptEvents
  induction notes with
  | nil => rfl
  | cons note notes ih =>
    rw [List.foldl_cons]
    cases hx : written note with
    | none => rw [keep_of_none hx, ih, List.filterMap_cons_none hx]
    | some x =>
      obtain ⟨e, hkeep, rfl⟩ := keep_nil_of_some hx
      rw [hkeep, List.filterMap_cons_some hx]
      exact map_texts_foldl_keep [] e notes

/-- Two Opens in a row. -/
example : (keptEvents [Activity.openSent.note 1000 0, Activity.openSent.note 2000 0]).map
    ActivityEntry.texts = [Activity.openSent.texts] := by
  decide

end

end ActivityHistory

/-! ### Reading the lines -/

namespace Activity

/-- The line of a close that was made, and whether the driver took it. -/
def closeMade : Activity → Option (Caller × Bool)
  | .close kind .sent => some (kind.caller, true)
  | .close kind .failed => some (kind.caller, false)
  | _ => none

/-- The state of the door in a line. -/
def doorState : Activity → Option DoorState
  | .door d => some d
  | _ => none

/-- The state of the obstruction sensor in a line. -/
def obstructionState : Activity → Option ObstructionState
  | .obstruction o => some o
  | _ => none

end Activity

/-- The states of the door that have a line of their own. -/
def DoorState.told : DoorState → Option DoorState
  | .opened => some .opened
  | .closed => some .closed
  | .opening => some .opening
  | .closing => some .closing
  | _ => none

/-- The texts of the closes. -/
def closeLines : List ((CStr × CStr) × Caller × Bool) :=
  [((lit "HomeKit", lit "Close sent"), .userClose, true),
    ((lit "HomeKit", lit "Close failed"), .userClose, false),
    ((lit "auto-close", lit "Close sent after warning"), .autoClose, true),
    ((lit "auto-close", lit "Close command failed"), .autoClose, false),
    ((lit "schedule", lit "Close sent after warning"), .schedClose, true),
    ((lit "schedule", lit "Close command failed"), .schedClose, false)]

/-- The texts of the door's movements. -/
def doorLines : List ((CStr × CStr) × DoorState) :=
  [((lit "opener", lit "Open"), .opened), ((lit "opener", lit "Closed"), .closed),
    ((lit "opener", lit "Opening"), .opening), ((lit "opener", lit "Closing"), .closing)]

/-- The close that two texts tell of. -/
def closeOfTexts (x : CStr × CStr) : Option (Caller × Bool) := closeLines.lookup x

/-- The movement of the door that two texts tell of. -/
def doorOfTexts (x : CStr × CStr) : Option DoorState := doorLines.lookup x

/-- What the line says that the door is. -/
def doorLine (x : CStr × CStr) : Option CStr :=
  if x.1 = lit "opener" ∧ x.2 ≠ lit "Button press received" then some x.2 else none

/-- What the line says that the sensor sees. -/
def obstructionLine (x : CStr × CStr) : Option CStr :=
  if x.1 = lit "obstruction" then some x.2 else none

namespace Activity

/-- **The lines can be read**: their texts fit into an entry and say what they are meant to say. -/
theorem readable (a : Activity) :
    (lit a.message ≠ [] ∧ (lit a.source).length ≤ 23 ∧ (lit a.message).length ≤ 127) ∧
      closeOfTexts a.texts = a.closeMade ∧
      doorOfTexts a.texts = a.doorState.bind DoorState.told ∧
      doorLine a.texts = a.doorState.map (fun d => lit (doorMessage d)) ∧
      obstructionLine a.texts = a.obstructionState.map (fun o => lit (obstructionMessage o)) := by
  cases a with
  | close kind note => cases kind <;> cases note <;> decide +kernel
  | skipped why => cases why <;> decide +kernel
  | door d => cases d <;> decide +kernel
  | obstruction o => cases o <;> decide +kernel
  | saved what => cases what <;> decide +kernel
  | retry note => cases note <;> decide +kernel
  | _ => decide +kernel

theorem written_note (a : Activity) (uptimeMs wall : ℤ) :
    ActivityHistory.written (a.note uptimeMs wall) = some a.texts := by
  obtain ⟨⟨hempty, hsource, hmessage⟩, -⟩ := a.readable
  simp only [ActivityHistory.written, note, hempty, if_false, List.take_of_length_le hsource,
    List.take_of_length_le hmessage]
  rfl

end Activity

/-! ### The calls since a boot -/

/-- The lines of the door control since the last boot. -/
def activitySince (es : List Step) : List Activity :=
  .booted :: (sinceBoot es).flatMap stepActivity

/-- The calls of `activity_record` since the last boot, each with the times it reads.  The lines
that are written under the lock come in the order of the steps; those that are not may come at any
place, and any number of times. -/
def NotedSince (es : List Step) (calls : List (Activity × ℤ × ℤ)) : Prop :=
  (calls.map Prod.fst).filter Activity.locked = (activitySince es).filter Activity.locked

instance (es : List Step) (calls : List (Activity × ℤ × ℤ)) : Decidable (NotedSince es calls) :=
  inferInstanceAs (Decidable (_ = _))

/-- The calls, as `activity_record` sees them. -/
def notesOf (calls : List (Activity × ℤ × ℤ)) : List ActivityNote :=
  calls.map fun c => c.1.note c.2.1 c.2.2

/-- Every line of the steps, written at once. -/
def notedAtOnce (es : List Step) : List (Activity × ℤ × ℤ) :=
  (activitySince es).map fun a => (a, 0, 0)

/-- What the entries tell, by their texts. -/
def toldBy {β : Type*} (f : CStr × CStr → Option β) (kept : List ActivityEntry) : List β :=
  kept.filterMap fun e => f e.texts

/-- No line that tells something is the same as the one after it. -/
def Distinct {β : Type*} (g : Activity → Option β) (lines : List Activity) : Prop :=
  lines.IsChain fun a b => a.texts = b.texts → g a = none

section Since

variable {es : List Step} {e : Step}

theorem activitySince_snoc (hc : e.label.1.call.isReboot = false) :
    activitySince (es ++ [e]) = activitySince es ++ stepActivity e := by
  simp [activitySince, sinceBoot_snoc hc]

theorem activitySince_reboot (hc : e.label.1.call.isReboot = true) :
    activitySince (es ++ [e]) = [.booted] := by
  simp [activitySince, sinceBoot_reboot hc]

theorem mem_of_mem_sinceBoot (he : e ∈ sinceBoot es) : e ∈ es :=
  (List.rtakeWhile_suffix _ _).subset he

end Since

section Reading

variable {β : Type*} {f : CStr × CStr → Option β} {g : Activity → Option β} {es : List Step}
  {calls : List (Activity × ℤ × ℤ)}

theorem filterMap_locked (hg : ∀ a, a.locked = false → g a = none) (lines : List Activity) :
    (lines.filter Activity.locked).filterMap g = lines.filterMap g := by
  rw [List.filterMap_filter]
  refine List.filterMap_congr fun a _ => ?_
  cases ha : a.locked with
  | false => simp [hg a ha]
  | true => simp

theorem filterMap_activitySince (hbooted : g .booted = none) :
    (activitySince es).filterMap g =
      (sinceBoot es).flatMap fun e => (stepActivity e).filterMap g := by
  rw [activitySince, List.filterMap_cons_none hbooted, List.filterMap_flatMap]

theorem toldBy_keptEvents : toldBy f (ActivityHistory.keptEvents (notesOf calls)) =
    (((calls.map Prod.fst).map Activity.texts).destutter (· ≠ ·)).filterMap f := by
  have htexts : (notesOf calls).filterMap ActivityHistory.written =
      (calls.map Prod.fst).map Activity.texts := by
    rw [notesOf, List.filterMap_map, List.map_map]
    exact List.filterMap_eq_map_iff_forall_eq_some.2 fun c _ => c.1.written_note c.2.1 c.2.2
  rw [← htexts, ← ActivityHistory.map_texts_keptEvents, List.filterMap_map]
  rfl

theorem toldBy_map_numbered (f : CStr × CStr → Option β) (kept : List ActivityEntry) :
    toldBy f (kept.map ActivityHistory.numbered) = toldBy f kept :=
  List.filterMap_map

theorem toldBy_activityRead (f : CStr × CStr → Option β) (notes : List ActivityNote)
    (capacity : ℕ) :
    toldBy f ((notes.foldl ActivityHistory.activityRecord {}).activityRead capacity) <:+
      toldBy f (ActivityHistory.keptEvents notes) := by
  have hkeeps := ActivityHistory.keeps_empty.foldl_activityRecord notes
  rw [hkeeps.activityRead capacity, toldBy_map_numbered]
  exact (List.drop_suffix _ _).filterMap _

theorem filterMap_calls (hcalls : NotedSince es calls)
    (hg : ∀ a, a.locked = false → g a = none) :
    (calls.map Prod.fst).filterMap g = (activitySince es).filterMap g := by
  rw [← filterMap_locked hg, hcalls, filterMap_locked hg]

/-- **The history tells all that its lines tell**, if none of those that are written under the lock
repeats the one before. -/
theorem toldBy_eq (hcalls : NotedSince es calls) (hf : ∀ a, f a.texts = g a)
    (hg : ∀ a, a.locked = false → g a = none)
    (hdistinct : Distinct g ((activitySince es).filter Activity.locked)) :
    toldBy f (ActivityHistory.keptEvents (notesOf calls)) = (activitySince es).filterMap g := by
  have hcomp : f ∘ Activity.texts = g := funext hf
  have hall : Distinct g (calls.map Prod.fst) := by
    refine List.isChain_of_filter (p := Activity.locked) (fun a b ha => ?_) ?_
    -- a line from outside the lock tells nothing, nor does one of the same text
    · refine ⟨fun _ => hg a ha, fun hsame => ?_⟩
      rw [← hf, hsame, hf, hg a ha]
    · rw [hcalls]
      exact hdistinct
  rw [toldBy_keptEvents, List.filterMap_destutter, List.filterMap_map, hcomp,
    filterMap_calls hcalls hg]
  rw [List.isChain_map]
  exact hall.imp fun a b hab hsame => (hf a).trans (hab hsame)

/-- **The newest line** of a kind is kept in any case. -/
theorem getLast?_toldBy (hcalls : NotedSince es calls) (hf : ∀ a, f a.texts = g a)
    (hg : ∀ a, a.locked = false → g a = none) :
    (toldBy f (ActivityHistory.keptEvents (notesOf calls))).getLast? =
      ((activitySince es).filterMap g).getLast? := by
  have hcomp : f ∘ Activity.texts = g := funext hf
  rw [toldBy_keptEvents, List.getLast?_filterMap_destutter, List.filterMap_map, hcomp,
    filterMap_calls hcalls hg]

theorem Distinct.append {lines new : List Activity} (h : Distinct g lines)
    (hf : ∀ a, f a.texts = g a) (hone : (new.filterMap g).length ≤ 1)
    (hnext : ∀ a ∈ lines.getLast?, ∀ b, g a = some b → b ∉ new.filterMap g) :
    Distinct g (lines ++ new) := by
  have hsame : ∀ {a b : Activity}, a.texts = b.texts → g a = g b := fun {a b} hab => by
    rw [← hf a, ← hf b, hab]
  refine List.IsChain.append h ?_ fun a ha b hb hab => ?_
  -- among the new lines only one tells something
  · rw [List.isChain_iff_forall_rel_of_append_cons_cons]
    rintro a b before after rfl hab
    by_contra hne
    obtain ⟨x, hx⟩ := Option.ne_none_iff_exists'.1 hne
    have hy : g b = some x := (hsame hab).symm.trans hx
    simp [List.filterMap_append, hx, hy] at hone
    omega
  · by_contra hne
    obtain ⟨x, hx⟩ := Option.ne_none_iff_exists'.1 hne
    refine hnext a ha x hx (List.mem_filterMap.2 ⟨b, List.mem_of_mem_head? hb, ?_⟩)
    exact (hsame hab).symm.trans hx

end Reading

end GdoBlaq
