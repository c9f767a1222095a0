import Mathlib.Algebra.Order.Floor.Ring
import Mathlib.Algebra.Order.Field.Basic
import RetirementPlanner.Lib.Numerals

/-!
# Schemas over JSON values

A JSON value with numbers from a field `K`, the records a program spreads and
updates, and the parsers a schema library builds from smaller ones. A parser reads
what a key holds, `none` when the key is absent, and fails with the first issue it
meets: the path of the field and its message, where the schema has one of its own.

Each combinator comes with what it accepts (`number_ok`, `refined_ok`, `field_ok`, …),
so that a schema's acceptance is read off by rewriting.
-/

namespace Schema

inductive Json (K : Type*) where
  | null
  | bool (b : Bool)
  | num (x : K)
  | str (s : String)
  | arr (items : List (Json K))
  | obj (fields : List (String × Json K))

section DecEq

variable {K : Type*} [DecidableEq K]

mutual

/-- Whether two values are the same tree. -/
def Json.decEq : (a b : Json K) → Decidable (a = b)
  | .null, .null => isTrue rfl
  | .bool a, .bool b => decidable_of_iff (a = b) (by rw [Json.bool.injEq])
  | .num a, .num b => decidable_of_iff (a = b) (by rw [Json.num.injEq])
  | .str a, .str b => decidable_of_iff (a = b) (by rw [Json.str.injEq])
  | .arr a, .arr b =>
    have := Json.decEqItems a b
    decidable_of_iff (a = b) (by rw [Json.arr.injEq])
  | .obj a, .obj b =>
    have := Json.decEqFields a b
    decidable_of_iff (a = b) (by rw [Json.obj.injEq])
  | .null, .bool _ | .null, .num _ | .null, .str _ | .null, .arr _ | .null, .obj _
  | .bool _, .null | .bool _, .num _ | .bool _, .str _ | .bool _, .arr _ | .bool _, .obj _
  | .num _, .null | .num _, .bool _ | .num _, .str _ | .num _, .arr _ | .num _, .obj _
  | .str _, .null | .str _, .bool _ | .str _, .num _ | .str _, .arr _ | .str _, .obj _
  | .arr _, .null | .arr _, .bool _ | .arr _, .num _ | .arr _, .str _ | .arr _, .obj _
  | .obj _, .null | .obj _, .bool _ | .obj _, .num _ | .obj _, .str _ | .obj _, .arr _ =>
    isFalse nofun

def Json.decEqItems : (a b : List (Json K)) → Decidable (a = b)
  | [], [] => isTrue rfl
  | a :: as, b :: bs =>
    have := Json.decEq a b
    have := Json.decEqItems as bs
    decidable_of_iff (a = b ∧ as = bs) (by rw [List.cons.injEq])
  | [], _ :: _ | _ :: _, [] => isFalse nofun

def Json.decEqFields : (a b : List (String × Json K)) → Decidable (a = b)
  | [], [] => isTrue rfl
  | (k, a) :: as, (l, b) :: bs =>
    have := Json.decEq a b
    have := Json.decEqFields as bs
    decidable_of_iff ((k = l ∧ a = b) ∧ as = bs) (by rw [List.cons.injEq, Prod.mk.injEq])
  | [], _ :: _ | _ :: _, [] => isFalse nofun

end

instance : DecidableEq (Json K) := Json.decEq

end DecEq
/-- The fields of an object: the first entry of a key is the one that counts. -/
abbrev Fields (K : Type*) := List (String × Json K)

universe u

variable {K : Type*} {α β : Type u}

/-! ## Records -/

/-- What a key holds, `none` when it is absent. -/
def Fields.get (fields : Fields K) (key : String) : Option (Json K) := fields.lookup key

def Fields.set (fields : Fields K) (key : String) (value : Json K) : Fields K :=
  (key, value) :: fields

/-- `{ ...fields, ...overrides }`. -/
def Fields.spread (fields overrides : Fields K) : Fields K := overrides ++ fields

def Fields.without (fields : Fields K) (keys : List String) : Fields K :=
  fields.filter fun entry => entry.1 ∉ keys

@[simp] theorem Fields.get_set_self (fields : Fields K) (key : String) (value : Json K) :
    (fields.set key value).get key = some value := by
  simp [get, set]

@[simp] theorem Fields.get_set_other (fields : Fields K) {key other : String} (value : Json K)
    (h : other ≠ key) : (fields.set key value).get other = fields.get other := by
  have hne : (other == key) = false := beq_false_of_ne h
  simp [get, set, List.lookup_cons, hne]

@[simp] theorem Fields.get_spread (fields overrides : Fields K) (key : String) :
    (fields.spread overrides).get key = (overrides.get key).or (fields.get key) := by
  simp [get, spread, List.lookup_append]

theorem Fields.get_without (fields : Fields K) {keys : List String} {key : String}
    (h : key ∉ keys) : (fields.without keys).get key = fields.get key := by
  induction fields with
  | nil => rfl
  | cons entry fields ih =>
    obtain ⟨k, v⟩ := entry
    by_cases hk : k ∈ keys
    · have hne : (key == k) = false := beq_false_of_ne fun heq => h (heq ▸ hk)
      have hskip : Fields.without ((k, v) :: fields) keys = Fields.without fields keys := by
        simp [without, hk]
      rw [hskip, ih]
      simp [get, List.lookup_cons, hne]
    · have hkeep : Fields.without ((k, v) :: fields) keys
          = (k, v) :: Fields.without fields keys := by
        simp [without, hk]
      rw [hkeep]
      simp only [get] at ih ⊢
      rw [List.lookup_cons, List.lookup_cons, ih]

/-- The fields of a value, none when it is no object. -/
def fieldsOf : Option (Json K) → Fields K
  | some (.obj fields) => fields
  | _ => []

/-- A value that is neither absent nor null. -/
def nonNull : Option (Json K) → Option (Json K)
  | some .null => none
  | value => value

/-- `value ?? fallback`. -/
def coalesce (value fallback : Option (Json K)) : Option (Json K) := (nonNull value).or fallback

/-- With a fallback that is there, nothing else is needed. -/
theorem getD_coalesce_some (value : Option (Json K)) (fallback other : Json K) :
    (coalesce value (some fallback)).getD other = (nonNull value).getD fallback := by
  rw [coalesce]
  cases nonNull value <;> rfl

/-- The number a value is. -/
def numberOf : Option (Json K) → Option K
  | some (.num x) => some x
  | _ => none

/-! ## Parsers -/

/-- Why a value is refused. A schema that states no message leaves it to the library. -/
structure Issue where
  path : List String
  message : Option String
  deriving DecidableEq, Repr

abbrev Parser (K α : Type*) := Option (Json K) → Except Issue α

def fail (message : Option String) : Except Issue α := .error ⟨[], message⟩

section Outcomes

variable {ε ε' : Type}

/-- A sequence succeeds with its last result when each step of it succeeds. -/
theorem bind_ok {x : Except ε α} {f : α → Except ε β} {b : β} :
    (x >>= f) = .ok b ↔ ∃ a, x = .ok a ∧ f a = .ok b := by
  cases x with
  | error e => simp [bind, Except.bind]
  | ok a => simp [bind, Except.bind]

theorem map_ok {x : Except ε α} {f : α → β} {b : β} :
    x.map f = .ok b ↔ ∃ a, x = .ok a ∧ f a = b := by
  cases x with
  | error e => simp [Except.map]
  | ok a => simp [Except.map]

theorem mapError_ok {x : Except ε α} {f : ε → ε'} {a : α} :
    x.mapError f = .ok a ↔ x = .ok a := by
  cases x with
  | error e => simp [Except.mapError]
  | ok a => simp [Except.mapError]

end Outcomes

/-- A parse succeeds with a result of which a test holds. -/
def okAnd (x : Except Issue α) (test : α → Bool) : Bool :=
  match x with
  | .ok a => test a
  | .error _ => false

theorem exists_of_okAnd {x : Except Issue α} {test : α → Bool} (h : okAnd x test = true) :
    ∃ a, x = .ok a ∧ test a = true := by
  cases x with
  | error e => cases h
  | ok a => exact ⟨a, rfl, h⟩

/-- The result of a parse that succeeds. -/
def okValue : (x : Except Issue α) → x.isOk = true → α
  | .ok a, _ => a

theorem eq_okValue {x : Except Issue α} (h : x.isOk = true) : x = .ok (okValue x h) := by
  cases x with
  | error e => cases h
  | ok a => rfl

def number : Parser K K
  | some (.num x) => .ok x
  | _ => fail none

def boolean : Parser K Bool
  | some (.bool b) => .ok b
  | _ => fail none

def string : Parser K String
  | some (.str s) => .ok s
  | _ => fail none

/-- The length of a text as JavaScript counts it, in UTF-16 code units. -/
def utf16Length (s : String) : ℕ := (s.toList.map fun c => if c.toNat < 0x10000 then 1 else 2).sum

/-- One of a table of texts. -/
def oneOf (table : List (String × α)) : Parser K α
  | some (.str s) =>
    match table.lookup s with
    | some a => .ok a
    | none => fail none
  | _ => fail none

/-- What another parser accepts, if it also passes a check. -/
def refined (p : Parser K α) (holds : α → Bool) (message : Option String) : Parser K α :=
  fun value => do
    let a ← p value
    if holds a then .ok a else fail message

/-- A key that may be absent. -/
def optional (p : Parser K α) : Parser K (Option α)
  | none => .ok none
  | value => (p value).map some

/-- A key with a default. -/
def withDefault (default : α) (p : Parser K α) : Parser K α
  | none => .ok default
  | value => p value

/-- What either parser accepts, the first one first. -/
def union (p q : Parser K α) : Parser K α := fun value =>
  match p value, q value with
  | .ok a, _ => .ok a
  | .error _, .ok a => .ok a
  | .error _, .error _ => fail none

def object : Parser K (Fields K)
  | some (.obj fields) => .ok fields
  | _ => fail none

/-- An issue of a part, seen from the whole. -/
def under (key : String) : Except Issue α → Except Issue α
  | .ok a => .ok a
  | .error issue => .error { issue with path := key :: issue.path }

def field (key : String) (p : Parser K α) (fields : Fields K) : Except Issue α :=
  under key (p (fields.get key))

/-- The items of an array from an index on. -/
def itemsFrom (p : Parser K α) (index : ℕ) : List (Json K) → Except Issue (List α)
  | [] => .ok []
  | item :: items => do
    let a ← under (toString index) (p (some item))
    let rest ← itemsFrom p (index + 1) items
    .ok (a :: rest)

def array (p : Parser K α) : Parser K (List α)
  | some (.arr items) => itemsFrom p 0 items
  | _ => fail none

/-- An object without keys beside the ones listed. -/
def strict (keys : List String) : Parser K (Fields K) := fun value => do
  let fields ← object value
  if fields.all fun entry => entry.1 ∈ keys then .ok fields else fail none

/-! ## What they accept -/

@[simp] theorem number_ok {value : Option (Json K)} {x : K} :
    number value = .ok x ↔ value = some (.num x) := by
  unfold number
  split <;> simp_all [fail]

@[simp] theorem refined_ok {p : Parser K α} {holds : α → Bool} {message : Option String}
    {value : Option (Json K)} {a : α} :
    refined p holds message value = .ok a ↔ p value = .ok a ∧ holds a = true := by
  simp only [refined, bind_ok]
  constructor
  · rintro ⟨b, hp, hb⟩
    split at hb
    · cases hb
      exact ⟨hp, by assumption⟩
    · cases hb
  · rintro ⟨hp, ha⟩
    exact ⟨a, hp, if_pos ha⟩

@[simp] theorem under_ok {key : String} {x : Except Issue α} {a : α} :
    under key x = .ok a ↔ x = .ok a := by
  cases x <;> simp [under]

@[simp] theorem field_ok {key : String} {p : Parser K α} {fields : Fields K} {a : α} :
    field key p fields = .ok a ↔ p (fields.get key) = .ok a := under_ok

@[simp] theorem nonNull_map_num (x : Option K) :
    nonNull (x.map (Json.num (K := K))) = x.map .num := by
  cases x <;> rfl

@[simp] theorem numberOf_map_num (x : Option K) : numberOf (x.map .num) = x := by
  cases x <;> rfl

@[simp] theorem numberOf_nonNull (value : Option (Json K)) :
    numberOf (nonNull value) = numberOf value := by
  rcases value with _ | json
  · rfl
  · cases json <;> rfl

/-- Where a value with a fallback turns out to be a number, it is the number the value
is, or else the fallback. -/
theorem eq_numberOf_getD {value : Option (Json K)} {x y : K}
    (h : some ((nonNull value).getD (.num y)) = some (Json.num x)) :
    x = (numberOf value).getD y := by
  rcases value with _ | json
  · simpa [nonNull, numberOf, eq_comm] using h
  · cases json <;> simp_all [nonNull, numberOf, eq_comm]

theorem optional_ok {p : Parser K α} {value : Option (Json K)} {x : Option α} :
    optional p value = .ok x ↔
      value = none ∧ x = none ∨ ∃ json a, value = some json ∧ p value = .ok a ∧ x = some a := by
  cases value with
  | none => simp [optional, eq_comm]
  | some json =>
    cases hp : p (some json) <;> simp [optional, hp, Except.map, eq_comm]

theorem withDefault_ok {default : α} {p : Parser K α} {value : Option (Json K)} {a : α} :
    withDefault default p value = .ok a ↔
      value = none ∧ a = default ∨ ∃ json, value = some json ∧ p value = .ok a := by
  cases value <;> simp [withDefault, eq_comm]

/-- An optional number is absent or a number, never null. -/
theorem optional_number_ok {value : Option (Json K)} {x : Option K} :
    optional number value = .ok x ↔ value = x.map .num := by
  cases value with
  | none => cases x <;> simp [optional]
  | some json =>
    cases json <;> cases x <;> simp [optional, number, fail, Except.map]

@[simp] theorem string_ok {value : Option (Json K)} {s : String} :
    string value = .ok s ↔ value = some (.str s) := by
  unfold string
  split <;> simp_all [fail]

theorem optional_string_ok {value : Option (Json K)} {s : Option String} :
    optional string value = .ok s ↔ value = s.map .str := by
  cases value with
  | none => cases s <;> simp [optional]
  | some json =>
    cases json <;> cases s <;> simp [optional, string, fail, Except.map]

@[simp] theorem object_ok {value : Option (Json K)} {fields : Fields K} :
    object value = .ok fields ↔ value = some (.obj fields) := by
  unfold object
  split <;> simp_all [fail]

theorem strict_ok {keys : List String} {value : Option (Json K)} {fields : Fields K}
    (h : strict keys value = .ok fields) : value = some (.obj fields) := by
  simp only [strict, bind_ok, object_ok] at h
  obtain ⟨fields', rfl, hkeys⟩ := h
  split at hkeys
  · cases hkeys
    rfl
  · cases hkeys

theorem union_ok {p q : Parser K α} {value : Option (Json K)} {a : α} :
    union p q value = .ok a ↔
      p value = .ok a ∨ (∀ b, p value ≠ .ok b) ∧ q value = .ok a := by
  unfold union
  split <;> simp_all [fail]

theorem array_length {p : Parser K α} {items : List (Json K)} {as : List α}
    (h : array p (some (.arr items)) = .ok as) : as.length = items.length := by
  have hitems : ∀ (items : List (Json K)) (index : ℕ) (as : List α),
      itemsFrom p index items = .ok as → as.length = items.length := by
    intro items
    induction items with
    | nil =>
      intro index as h
      cases h
      rfl
    | cons item items ih =>
      intro index as h
      simp only [itemsFrom, bind_ok, under_ok] at h
      obtain ⟨a, -, rest, hrest, heq⟩ := h
      cases heq
      simp [ih _ _ hrest]
  exact hitems _ _ _ h

/-- What holds of everything a parser accepts holds of the items of an array of it. -/
theorem array_forall {p : Parser K α} {holds : α → Prop}
    (hp : ∀ value a, p value = .ok a → holds a) {value : Option (Json K)} {as : List α}
    (h : array p value = .ok as) : ∀ a ∈ as, holds a := by
  have hitems : ∀ (items : List (Json K)) (index : ℕ) (as : List α),
      itemsFrom p index items = .ok as → ∀ a ∈ as, holds a := by
    intro items
    induction items with
    | nil =>
      intro index as h
      cases h
      exact fun a ha => (nomatch ha)
    | cons item items ih =>
      intro index as h
      simp only [itemsFrom, bind_ok, under_ok] at h
      obtain ⟨a, ha, rest, hrest, heq⟩ := h
      cases heq
      exact List.forall_mem_cons.mpr ⟨hp _ _ ha, ih _ _ hrest⟩
  unfold Schema.array at h
  split at h
  · exact hitems _ _ _ h
  · cases h

/-! ## Numbers -/

section Numbers

variable [LinearOrder K]

/-- A number from `low` to `high`, each with the message of its own check. -/
def between (low high : K) (tooSmall tooBig : Option String) : Parser K K :=
  refined (refined number (fun x => low ≤ x) tooSmall) (fun x => x ≤ high) tooBig

@[simp] theorem between_ok {low high : K} {tooSmall tooBig : Option String}
    {value : Option (Json K)} {x : K} :
    between low high tooSmall tooBig value = .ok x ↔
      value = some (.num x) ∧ low ≤ x ∧ x ≤ high := by
  simp [between, and_assoc]

variable [Field K] [FloorRing K]

/-- A whole number. -/
def integer : Parser K ℤ
  | some (.num x) => if (⌊x⌋ : K) = x then .ok ⌊x⌋ else fail none
  | _ => fail none

/-- A whole number from `low` to `high`, each with the message of its own check. -/
def integerBetween (low high : ℤ) (tooSmall tooBig : Option String) : Parser K ℤ :=
  refined (refined integer (fun n => low ≤ n) tooSmall) (fun n => n ≤ high) tooBig

@[simp] theorem integer_ok [IsStrictOrderedRing K] {value : Option (Json K)} {n : ℤ} :
    integer value = .ok n ↔ value = some (.num (n : K)) := by
  constructor
  · intro h
    unfold integer at h
    split at h
    · split at h
      · rename_i hfloor
        cases h
        rw [hfloor]
      · cases h
    · cases h
  · rintro rfl
    simp [integer]

@[simp] theorem integerBetween_ok [IsStrictOrderedRing K] {low high : ℤ}
    {tooSmall tooBig : Option String} {value : Option (Json K)} {n : ℤ} :
    integerBetween low high tooSmall tooBig value = .ok n ↔
      value = some (.num (n : K)) ∧ low ≤ n ∧ n ≤ high := by
  simp [integerBetween, and_assoc]

end Numbers

end Schema
