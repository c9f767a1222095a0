import Mathlib.Data.List.Basic

/-!
# Requests in flight

A bag of requests as a list: one is replaced when it is executed and taken out when it is
delivered. `split` cuts the list at the request, so that both are read as appends;
`mem_replaced` and `replaced_like` say which requests there are after a replacement.
-/

namespace InFlight

variable {α : Type*}

theorem split {requests : List α} {index : ℕ} {request : α}
    (h : requests[index]? = some request) :
    ∃ before after, requests = before ++ request :: after ∧
      (∀ other, requests.set index other = before ++ other :: after) ∧
      requests.eraseIdx index = before ++ after := by
  obtain ⟨hlt, hget⟩ := List.getElem?_eq_some_iff.mp h
  refine ⟨requests.take index, requests.drop (index + 1), ?_, fun other => ?_, ?_⟩
  · rw [← hget, List.getElem_cons_drop, List.take_append_drop]
  · rw [List.set_eq_take_append_cons_drop, if_pos hlt]
  · rw [List.eraseIdx_eq_take_drop_succ]

variable {before after : List α} {request' : α}

/-- Replacing a request adds only the new one. -/
theorem mem_replaced (request : α) {other : α} (h : other ∈ before ++ request' :: after) :
    other ∈ before ++ request :: after ∨ other = request' := by
  simp only [List.mem_append, List.mem_cons] at h ⊢
  obtain hbefore | rfl | hafter := h
  · exact .inl (.inl hbefore)
  · exact .inr rfl
  · exact .inl (.inr (.inr hafter))

/-- Where a request is replaced by one like it, each is like one that was there. -/
theorem replaced_like {R : α → α → Prop} (hrefl : ∀ x, R x x) {request : α}
    (h : R request' request) :
    ∀ other ∈ before ++ request' :: after, ∃ old ∈ before ++ request :: after, R other old := by
  intro other hother
  obtain hold | rfl := mem_replaced request hother
  · exact ⟨other, hold, hrefl other⟩
  · exact ⟨request, List.mem_append_right _ (List.mem_cons_self ..), h⟩

end InFlight
