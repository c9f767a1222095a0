import RetirementPlanner.Lib.Schema

/-!
# Writing out what a parser accepts

A value that came out of a parser is written out as JSON again, stored, sent and parsed
once more. `RoundTrips` says that a parser accepts what it accepted before, as the same
value, and `Faithful` that it never makes another value of what was written out. Both are
closed under the parsers of `Schema`.
-/

namespace Schema

universe u

variable {K : Type*} {α β : Type u}

/-- What a parser accepts it accepts again, once written out. -/
def RoundTrips (p : Parser K α) (encode : α → Json K) : Prop :=
  ∀ ⦃value : Option (Json K)⦄ ⦃a : α⦄, p value = .ok a → p (some (encode a)) = .ok a

/-- What was written out is read back as nothing else. -/
def Faithful (p : Parser K α) (encode : α → Json K) : Prop :=
  ∀ ⦃a b : α⦄, p (some (encode a)) = .ok b → b = a

/-! ## Scalars -/

theorem boolean_ok {value : Option (Json K)} {b : Bool} :
    boolean value = .ok b ↔ value = some (.bool b) := by
  rcases value with _ | json
  · simp [boolean, fail]
  · cases json <;> simp [boolean, fail]

theorem number_roundTrips : RoundTrips (K := K) number .num := by
  intro value x _
  exact number_ok.mpr rfl

theorem string_roundTrips : RoundTrips (K := K) string .str := by
  intro value s _
  exact string_ok.mpr rfl

theorem boolean_roundTrips : RoundTrips (K := K) boolean .bool := by
  intro value b _
  exact boolean_ok.mpr rfl

/-- A table whose texts are looked up as what they name. -/
theorem oneOf_roundTrips {table : List (String × α)} {text : α → String}
    (h : ∀ entry ∈ table, table.lookup (text entry.2) = some entry.2) :
    RoundTrips (K := K) (oneOf table) (fun a => .str (text a)) := by
  intro value a ha
  have hmem : ∃ s, (s, a) ∈ table := by
    unfold oneOf at ha
    split at ha
    · split at ha
      · rename_i s _ _ hlookup
        cases ha
        obtain ⟨before, after, rfl, -⟩ := List.lookup_eq_some_iff.mp hlookup
        exact ⟨s, by simp⟩
      · cases ha
    · cases ha
  obtain ⟨s, hs⟩ := hmem
  simp only [oneOf, h _ hs]

/-! ## Checks, lists and defaults -/

theorem RoundTrips.refined {p : Parser K α} {encode : α → Json K} (hp : RoundTrips p encode)
    (holds : α → Bool) (message : Option String) :
    RoundTrips (refined p holds message) encode := by
  intro value a ha
  rw [refined_ok] at ha ⊢
  exact ⟨hp ha.1, ha.2⟩

theorem Faithful.refined {p : Parser K α} {encode : α → Json K} (hp : Faithful p encode)
    (holds : α → Bool) (message : Option String) :
    Faithful (refined p holds message) encode := by
  intro a b hb
  rw [refined_ok] at hb
  exact hp hb.1

/-- A key with a default keeps its value, if the default passes the key's own check. -/
theorem RoundTrips.withDefault {p : Parser K α} {encode : α → Json K} (hp : RoundTrips p encode)
    {default : α} (hdefault : p (some (encode default)) = .ok default) :
    RoundTrips (withDefault default p) encode := by
  intro value a ha
  cases value with
  | none =>
    cases ha
    exact hdefault
  | some json => exact hp ha

theorem itemsFrom_ok {p : Parser K α} {encode : α → Json K} (hp : RoundTrips p encode) :
    ∀ {items : List (Json K)} {index : ℕ} {as : List α},
      itemsFrom p index items = .ok as →
        ∀ index', itemsFrom p index' (as.map encode) = .ok as := by
  intro items
  induction items with
  | nil =>
    intro index as h index'
    cases h
    rfl
  | cons item items ih =>
    intro index as h index'
    simp only [itemsFrom, bind_ok, under_ok] at h
    obtain ⟨a, ha, rest, hrest, heq⟩ := h
    cases heq
    simp only [List.map_cons, itemsFrom, bind_ok, under_ok]
    exact ⟨a, hp ha, rest, ih hrest (index' + 1), rfl⟩

/-- The items of an array, written out one by one. -/
def encodeArray (encode : α → Json K) (as : List α) : Json K := .arr (as.map encode)

theorem RoundTrips.array {p : Parser K α} {encode : α → Json K} (hp : RoundTrips p encode) :
    RoundTrips (array p) (encodeArray encode) := by
  intro value as h
  unfold Schema.array at h
  split at h
  · exact itemsFrom_ok hp h 0
  · cases h

/-- The items of an array are read one by one. -/
theorem array_encodeArray {p : Parser K β} {encode : α → Json K} {read : α → β}
    (hp : ∀ a, p (some (encode a)) = .ok (read a)) (as : List α) :
    array p (some (encodeArray encode as)) = .ok (as.map read) := by
  have hitems : ∀ index, itemsFrom p index (as.map encode) = .ok (as.map read) := by
    induction as with
    | nil => exact fun _ => rfl
    | cons a as ih =>
      intro index
      simp only [List.map_cons, itemsFrom, bind_ok, under_ok]
      exact ⟨_, hp a, _, ih (index + 1), rfl⟩
  exact hitems 0

/-- An object has the keys that it may have. -/
theorem strict_obj {keys : List String} {fields : Fields K}
    (h : ∀ key ∈ fields.map Prod.fst, key ∈ keys) :
    strict keys (some (.obj fields)) = .ok fields := by
  have hall : (fields.all fun entry => decide (entry.1 ∈ keys)) = true :=
    List.all_eq_true.mpr fun entry hentry =>
      decide_eq_true (h entry.1 (List.mem_map_of_mem hentry))
  simp only [strict, bind_ok, object_ok]
  exact ⟨fields, rfl, if_pos hall⟩

theorem Faithful.array {p : Parser K α} {encode : α → Json K} (hp : Faithful p encode) :
    Faithful (array p) (encodeArray encode) := by
  have hitems : ∀ (as : List α) (index : ℕ) (bs : List α),
      itemsFrom p index (as.map encode) = .ok bs → bs = as := by
    intro as
    induction as with
    | nil =>
      intro index bs h
      cases h
      rfl
    | cons a as ih =>
      intro index bs h
      simp only [List.map_cons, itemsFrom, bind_ok, under_ok] at h
      obtain ⟨b, hb, rest, hrest, heq⟩ := h
      cases heq
      rw [hp hb, ih _ _ hrest]
  intro as bs h
  exact hitems as 0 bs h

/-! ## Numbers in a range -/

section Numbers

variable [LinearOrder K]

theorem between_roundTrips (low high : K) (tooSmall tooBig : Option String) :
    RoundTrips (between low high tooSmall tooBig) .num :=
  (number_roundTrips.refined _ _).refined _ _

variable [Field K] [IsStrictOrderedRing K] [FloorRing K]

theorem integer_roundTrips : RoundTrips (K := K) integer (fun n : ℤ => .num n) := by
  intro value n _
  exact integer_ok.mpr rfl

theorem integerBetween_roundTrips (low high : ℤ) (tooSmall tooBig : Option String) :
    RoundTrips (K := K) (integerBetween low high tooSmall tooBig) (fun n : ℤ => .num n) :=
  (integer_roundTrips.refined _ _).refined _ _

end Numbers

end Schema
