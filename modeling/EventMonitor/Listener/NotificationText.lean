import EventMonitor.Library.DecimalText
import EventMonitor.Library.SeparatedText
import EventMonitor.Listener.Notifications

/-!
# The text of a status change

The text that users see is put together without quoting, and the timestamp in it may be any string.
The parts around it can still be read: no name of an action has a space, no printed number has a
comma or an equals sign. So the id ends at the first comma, and the user number begins behind the
last equals sign, whatever the timestamp contains. The text does not show the name, and it does not
tell a missing timestamp from the timestamp `null`.
-/

namespace EventMonitor

open Library

namespace ProcessedEventListener

/-- The name of an action has no space. -/
theorem notMem_actionName (action : Action) : ' ' ∉ action.toString.toList := by
  cases action <;> decide

/-- The name determines the action. -/
theorem actionName_injective : Function.Injective Action.toString := by
  intro a b h
  cases a <;> cases b <;> first | rfl | exact absurd h (by decide)

/-- A printed number has no comma and no equals sign. -/
theorem notMem_printInteger {c : Char} (hc : c = ',' ∨ c = '=') (n : Option Int) :
    c ∉ (printInteger n).toList := by
  cases n with
  | none => rcases hc with rfl | rfl <;> decide
  | some n => rcases hc with rfl | rfl <;> exact DecimalText.notMem_int (by decide) (by decide) n

/-- The printed text determines the number; `null` is not the text of one. -/
theorem printInteger_injective : Function.Injective printInteger := by
  have hnull : ∀ n : Int, toString n ≠ "null" := by
    intro n h
    have hmem : 'n' ∉ (toString n).toList := DecimalText.notMem_int (by decide) (by decide) n
    rw [h] at hmem
    exact hmem (by decide)
  intro a b h
  cases a with
  | none =>
    cases b with
    | none => rfl
    | some n => exact absurd h.symm (hnull n)
  | some m =>
    cases b with
    | none => exact absurd h (hnull m)
    | some n => exact congrArg some (DecimalText.toString_int_injective h)

/-- The text of a status change, at the characters where it is read. -/
theorem toList_content (change : EventStatusChange) :
    (informUserAboutStatusChange change).data.content.toList =
      change.action.toString.toList ++ ' ' :: ("id=".toList ++
        ((printInteger change.eventDto.id).toList ++ ',' :: ((" timestamp=".toList ++
          (printString change.eventDto.timestamp).toList ++ ", updatedBy".toList) ++
            '=' :: (printInteger change.eventDto.updatedBy).toList))) := by
  simp [informUserAboutStatusChange, JsonResult.of, EventDto.toString, String.toList_append]

/-- Two status changes have the same text exactly when they agree in the action, in the id, in the
printed timestamp and in the user number. -/
theorem content_eq_iff (change change' : EventStatusChange) :
    (informUserAboutStatusChange change).data.content =
        (informUserAboutStatusChange change').data.content ↔
      change.action = change'.action ∧ change.eventDto.id = change'.eventDto.id ∧
        printString change.eventDto.timestamp = printString change'.eventDto.timestamp ∧
          change.eventDto.updatedBy = change'.eventDto.updatedBy := by
  rw [← String.toList_inj, toList_content, toList_content,
    SeparatedText.append_cons_inj_of_notMem_before (notMem_actionName _) (notMem_actionName _),
    List.append_cancel_left_eq,
    SeparatedText.append_cons_inj_of_notMem_before (notMem_printInteger (Or.inl rfl) _)
      (notMem_printInteger (Or.inl rfl) _),
    SeparatedText.append_cons_inj_of_notMem_behind (notMem_printInteger (Or.inr rfl) _)
      (notMem_printInteger (Or.inr rfl) _),
    List.append_cancel_right_eq, List.append_cancel_left_eq, String.toList_inj, String.toList_inj,
    String.toList_inj, String.toList_inj, actionName_injective.eq_iff, printInteger_injective.eq_iff,
    printInteger_injective.eq_iff]

/-- The text of a status change whose timestamp is set determines the action, the id, the timestamp
and the user number. -/
theorem content_unambiguous (change change' : EventStatusChange)
    (htimestamp : change.eventDto.timestamp ≠ none) (htimestamp' : change'.eventDto.timestamp ≠ none) :
    (informUserAboutStatusChange change).data.content =
        (informUserAboutStatusChange change').data.content ↔
      change.action = change'.action ∧ change.eventDto.id = change'.eventDto.id ∧
        change.eventDto.timestamp = change'.eventDto.timestamp ∧
          change.eventDto.updatedBy = change'.eventDto.updatedBy := by
  rw [content_eq_iff]
  obtain ⟨text, htext⟩ := Option.ne_none_iff_exists'.mp htimestamp
  obtain ⟨text', htext'⟩ := Option.ne_none_iff_exists'.mp htimestamp'
  rw [htext, htext', Option.some.injEq]
  rfl

/-- A timestamp that itself contains the names of the fields is told from one that is followed by
them. -/
theorem content_unambiguous_nested :
    (informUserAboutStatusChange ⟨⟨some (-1), none, some "9:5, updatedBy=7", some 8⟩, .insert⟩).data.content ≠
      (informUserAboutStatusChange ⟨⟨some (-1), none, some "9:5", some 7⟩, .insert⟩).data.content := by
  intro h
  have hagree := (content_unambiguous ⟨⟨some (-1), none, some "9:5, updatedBy=7", some 8⟩, .insert⟩
    ⟨⟨some (-1), none, some "9:5", some 7⟩, .insert⟩ (by decide) (by decide)).mp h
  exact absurd hagree.2.2.2 (by decide)

/-- A missing timestamp is shown like the timestamp `null`. -/
theorem content_null_timestamp (action : Action) (dto : EventDto) :
    (informUserAboutStatusChange ⟨{ dto with timestamp := none }, action⟩).data.content =
      (informUserAboutStatusChange ⟨{ dto with timestamp := some "null" }, action⟩).data.content :=
  (content_eq_iff _ _).mpr ⟨rfl, rfl, rfl, rfl⟩

end ProcessedEventListener

end EventMonitor
