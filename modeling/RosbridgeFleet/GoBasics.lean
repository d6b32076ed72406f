import Mathlib.Tactic
import Mathlib.Data.String.Basic

set_option autoImplicit false

/-! Go values the server computes with: `int` rendered by `%d`, `float64` with its infinities
and NaN, `strconv.ParseFloat`, and how `encoding/json` matches keys to fields. -/

namespace RosbridgeFleet.GoBasics

/-- `fmt.Sprintf("%d", n)` for a Go `int`. -/
def sprintfD (n : BitVec 64) : String := toString n.toInt

def digitsValue (cs : List Char) : Nat :=
  cs.foldl (fun acc c => 10 * acc + (c.toNat - '0'.toNat)) 0

theorem foldl_digits_acc (acc : Nat) (cs : List Char) :
    cs.foldl (fun acc c => 10 * acc + (c.toNat - '0'.toNat)) acc =
      acc * 10 ^ cs.length + digitsValue cs := by
  induction cs generalizing acc with
  | nil => simp [digitsValue]
  | cons c cs ih =>
    have h0 : digitsValue (c :: cs) = (10 * 0 + (c.toNat - '0'.toNat)) * 10 ^ cs.length +
        digitsValue cs := ih _
    rw [List.foldl_cons, ih, h0, List.length_cons, pow_succ]
    ring

theorem digitsValue_cons (c : Char) (cs : List Char) :
    digitsValue (c :: cs) = (c.toNat - '0'.toNat) * 10 ^ cs.length + digitsValue cs := by
  simpa [digitsValue] using foldl_digits_acc (c.toNat - '0'.toNat) cs

theorem toDigitsCore_succ (f n : Nat) (ds : List Char) :
    Nat.toDigitsCore 10 (f + 1) n ds =
      if n / 10 = 0 then Nat.digitChar (n % 10) :: ds
      else Nat.toDigitsCore 10 f (n / 10) (Nat.digitChar (n % 10) :: ds) := rfl

theorem digitChar_value (d : Nat) (h : d < 10) : (Nat.digitChar d).toNat - '0'.toNat = d := by
  interval_cases d <;> rfl

theorem digitsValue_digitChar_cons (n : Nat) (ds : List Char) :
    digitsValue (Nat.digitChar (n % 10) :: ds) = n % 10 * 10 ^ ds.length + digitsValue ds := by
  rw [digitsValue_cons, digitChar_value _ (Nat.mod_lt n (by norm_num))]

theorem digitsValue_toDigitsCore (f n : Nat) (ds : List Char) (hn : n < 10 ^ (f + 1)) :
    digitsValue (Nat.toDigitsCore 10 (f + 1) n ds) = n * 10 ^ ds.length + digitsValue ds := by
  induction f generalizing n ds with
  | zero =>
    have hlt : n < 10 := by simpa using hn
    rw [toDigitsCore_succ, if_pos (Nat.div_eq_of_lt hlt), digitsValue_digitChar_cons,
      Nat.mod_eq_of_lt hlt]
  | succ f ih =>
    rw [toDigitsCore_succ]
    split_ifs with h10
    · rw [digitsValue_digitChar_cons, Nat.mod_eq_of_lt (by omega)]
    · have hq : n / 10 < 10 ^ (f + 1) := by
        rw [Nat.div_lt_iff_lt_mul (by norm_num)]
        simpa [pow_succ] using hn
      rw [ih _ _ hq, digitsValue_digitChar_cons, List.length_cons]
      calc n / 10 * 10 ^ (ds.length + 1) + (n % 10 * 10 ^ ds.length + digitsValue ds)
          = (10 * (n / 10) + n % 10) * 10 ^ ds.length + digitsValue ds := by ring
        _ = n * 10 ^ ds.length + digitsValue ds := by rw [Nat.div_add_mod]

theorem digitsValue_toDigits (n : Nat) : digitsValue (Nat.toDigits 10 n) = n := by
  have h := digitsValue_toDigitsCore n n [] (Nat.lt_pow_self (by norm_num) _ |>.trans
    (Nat.pow_lt_pow_right (by norm_num) (Nat.lt_succ_self n)))
  simpa [Nat.toDigits, digitsValue] using h

theorem toString_nat_injective : Function.Injective (fun n : Nat => toString n) := by
  intro a b h
  have hd : Nat.toDigits 10 a = Nat.toDigits 10 b := by
    simpa [toString, Nat.repr, List.asString] using congrArg String.data h
  rw [← digitsValue_toDigits a, ← digitsValue_toDigits b, hd]

theorem toDigitsCore_ne_nil (f n : Nat) (c : Char) (ds : List Char) :
    Nat.toDigitsCore 10 f n (c :: ds) ≠ [] := by
  induction f generalizing n c ds with
  | zero => simp [Nat.toDigitsCore]
  | succ f ih =>
    simp only [Nat.toDigitsCore]
    split
    · simp
    · exact ih _ _ _

theorem toString_int_ne_empty (i : Int) : toString i ≠ "" := by
  cases i with
  | ofNat n =>
    intro h
    have hd : Nat.toDigits 10 n = [] := by
      simpa [toString, Nat.repr, List.asString] using congrArg String.data h
    simp only [Nat.toDigits, Nat.toDigitsCore] at hd
    split at hd
    · simp at hd
    · exact toDigitsCore_ne_nil n _ _ [] hd
  | negSucc n =>
    intro h
    have hl := congrArg String.length h
    simp only [toString, String.length_append] at hl
    have h1 : "-".length = 1 := rfl
    have h0 : "".length = 0 := rfl
    omega

@[simp] theorem sprintfD_ne_empty (n : BitVec 64) : sprintfD n ≠ "" :=
  toString_int_ne_empty n.toInt

/-- A Go `float64`: a finite value, held exactly, an infinity (`neg` for the negative one),
or NaN. -/
inductive GoFloat
  | finite (q : ℚ)
  | inf (neg : Bool)
  | nan
  deriving DecidableEq, Repr

instance (n : Nat) : OfNat GoFloat n := ⟨.finite n⟩

instance : OfScientific GoFloat := ⟨fun m s e => .finite (OfScientific.ofScientific m s e)⟩

instance : Neg GoFloat :=
  ⟨fun | .finite q => .finite (-q) | .inf s => .inf !s | .nan => .nan⟩

/-- IEEE multiplication: exact on finite values, `0 * ±Inf` is NaN. -/
def GoFloat.mul : GoFloat → GoFloat → GoFloat
  | .finite a, .finite b => .finite (a * b)
  | .nan, _ | _, .nan => .nan
  | .finite a, .inf s | .inf s, .finite a => if a = 0 then .nan else .inf (xor s (decide (a < 0)))
  | .inf s, .inf t => .inf (xor s t)

instance : Mul GoFloat := ⟨GoFloat.mul⟩

/-- Go's `==`: NaN equals nothing, itself included. -/
def GoFloat.beq : GoFloat → GoFloat → Bool
  | .finite a, .finite b => a == b
  | .inf s, .inf t => s == t
  | _, _ => false

@[simp] theorem GoFloat.finite_mul_finite (a b : ℚ) : GoFloat.finite a * .finite b = .finite (a * b) :=
  rfl

theorem GoFloat.beq_comm (a b : GoFloat) : a.beq b = b.beq a := by
  cases a <;> cases b <;> simp only [GoFloat.beq, Bool.beq_comm]

/-- `strconv`'s `special`, where it takes the whole string: a sign or none and `inf` or
`infinity`, or `nan`, in either ASCII case. -/
def parseSpecial (s : String) : Option GoFloat :=
  match (⟨s.data.map Char.toLower⟩ : String) with
  | "inf" | "+inf" | "infinity" | "+infinity" => some (.inf false)
  | "-inf" | "-infinity" => some (.inf true)
  | "nan" => some .nan
  | _ => none

/-- `strconv.ParseFloat(s, 64)` when its error is nil. `decimal` reads the other strings it
takes, decimal and hexadecimal floats, as exact rationals. -/
def parseFloat (decimal : String → Option ℚ) (s : String) : Option GoFloat :=
  (parseSpecial s).orElse fun _ => (decimal s).map .finite

structure JsonNumber where
  value : ℚ
  bare : Bool
  bare_den : bare = true → value.den = 1
  deriving Repr

def JsonNumber.ofInt (n : Int) : JsonNumber := ⟨n, true, fun _ => Rat.intCast_den n⟩

/-- A `float64` as `json.Marshal` and `JSON.stringify` write it: bare when it is an integer
under 10^21 in magnitude. -/
def JsonNumber.ofFloat (q : ℚ) : JsonNumber :=
  ⟨q, decide (q.den = 1 ∧ |q| < 10 ^ 21), fun h => (of_decide_eq_true h).1⟩

inductive JsonValue
  | null
  | bool (b : Bool)
  | number (n : JsonNumber)
  | string (s : String)
  | array (xs : List JsonValue)
  | object (fields : List (String × JsonValue))
  deriving Repr

def JsonValue.float (q : ℚ) : JsonValue := .number (.ofFloat q)

def JsonValue.int (n : Int) : JsonValue := .number (.ofInt n)

@[simp] theorem JsonValue.float_inj {p q : ℚ} : JsonValue.float p = .float q ↔ p = q :=
  ⟨fun h => by injection h with h; exact congrArg JsonNumber.value h, fun h => h ▸ rfl⟩

/-- The members `json.Unmarshal` reads into a struct. A missing raw message (a `nil`
`json.RawMessage`) and a non-object are errors; `null` leaves the struct zero. -/
def objectFields : Option JsonValue → Option (List (String × JsonValue))
  | some .null => some []
  | some (.object fields) => some fields
  | _ => none

/-- How `encoding/json` matches a key against one of this program's field names, all ASCII:
ASCII letters up to case, and the Kelvin sign and the long s, whose simple folds reach `k`
and `s`; no other character folds to an ASCII one. -/
def foldChar (c : Char) : Char :=
  if c = '\u212A' then 'k' else if c = '\u017F' then 's' else c.toLower

def foldName (s : String) : String := s.map foldChar

/-- The member stored in the struct field `name`: the last key that folds to it. -/
def fieldOf (fields : List (String × JsonValue)) (name : String) : Option JsonValue :=
  ((fields.filter fun kv => foldName kv.1 == foldName name).getLast?).map (·.2)

def floatField (fields : List (String × JsonValue)) (name : String) : Option ℚ :=
  match fieldOf fields name with
  | none | some .null => some 0
  | some (.number n) => some n.value
  | some _ => none

def stringField (fields : List (String × JsonValue)) (name : String) : Option String :=
  match fieldOf fields name with
  | none | some .null => some ""
  | some (.string s) => some s
  | some _ => none

def intValue : JsonValue → Option (BitVec 64)
  | .null => some 0
  | .number n =>
    if n.bare ∧ -2 ^ 63 ≤ n.value.num ∧ n.value.num < 2 ^ 63 then some (BitVec.ofInt 64 n.value.num)
    else none
  | _ => none

def stringValue : JsonValue → Option String
  | .null => some ""
  | .string s => some s
  | _ => none

def intField (fields : List (String × JsonValue)) (name : String) : Option (BitVec 64) :=
  (fieldOf fields name).elim (some 0) intValue

def structField (fields : List (String × JsonValue)) (name : String) :
    Option (List (String × JsonValue)) :=
  objectFields ((fieldOf fields name).getD .null)

/-- A slice field decoded element by element: absent or `null` is `nil`. -/
def listField {α : Type} (dec : JsonValue → Option α) (fields : List (String × JsonValue))
    (name : String) : Option (List α) :=
  match fieldOf fields name with
  | none | some .null => some []
  | some (.array xs) => xs.mapM dec
  | some _ => none

theorem foldName_eq (s : String) : foldName s = ⟨s.data.map foldChar⟩ := String.map_eq _ _

theorem fieldOf_cons (k : String) (v : JsonValue) (rest : List (String × JsonValue))
    (name : String) :
    fieldOf ((k, v) :: rest) name =
      (fieldOf rest name).or (if foldName k = foldName name then some v else none) := by
  unfold fieldOf
  by_cases hk : foldName k = foldName name
  · rw [List.filter_cons_of_pos (by simpa using hk), List.getLast?_cons, if_pos hk]
    cases (rest.filter fun kv => foldName kv.1 == foldName name).getLast? <;> rfl
  · simp [List.filter_cons, hk]

/-- The keys of an object fold apart, as they do in what `json.Marshal` writes. -/
def KeysDistinct (fs : List (String × JsonValue)) : Prop := (fs.map fun kv => foldName kv.1).Nodup

def Carries (frame fs : List (String × JsonValue)) : Prop := ∀ kv ∈ fs, kv ∈ frame

def Lacks (frame : List (String × JsonValue)) (name : String) : Prop :=
  foldName name ∉ frame.map fun kv => foldName kv.1

theorem carries_self (fs : List (String × JsonValue)) : Carries fs fs := fun _ h => h

theorem carries_cons {frame fs : List (String × JsonValue)} {kv : String × JsonValue} :
    Carries frame (kv :: fs) ↔ kv ∈ frame ∧ Carries frame fs := by
  simp [Carries]

theorem fieldOf_eq_none {fields : List (String × JsonValue)} {name : String}
    (h : Lacks fields name) : fieldOf fields name = none := by
  unfold fieldOf
  rw [Option.map_eq_none', List.getLast?_eq_none_iff, List.filter_eq_nil_iff]
  intro kv hkv heq
  exact h (List.mem_map.mpr ⟨kv, hkv, by simpa using heq⟩)

theorem fieldOf_of_mem {fields : List (String × JsonValue)} {k : String} {v : JsonValue}
    (hnd : KeysDistinct fields) (hm : (k, v) ∈ fields) :
    fieldOf fields k = some v := by
  unfold KeysDistinct at hnd
  induction fields with
  | nil => cases hm
  | cons kv rest ih =>
    obtain ⟨k', v'⟩ := kv
    rw [List.map_cons, List.nodup_cons] at hnd
    rw [fieldOf_cons]
    rcases List.mem_cons.mp hm with he | hm
    · obtain ⟨rfl, rfl⟩ := Prod.mk.inj he
      simp [fieldOf_eq_none hnd.1]
    · simp [ih hnd.2 hm]

theorem stringField_of_mem {fs : List (String × JsonValue)} {name s : String}
    (hk : KeysDistinct fs) (hm : (name, .string s) ∈ fs) : stringField fs name = some s := by
  simp only [stringField, fieldOf_of_mem hk hm]

theorem floatField_of_mem {fs : List (String × JsonValue)} {name : String} {q : ℚ}
    (hk : KeysDistinct fs) (hm : (name, .float q) ∈ fs) : floatField fs name = some q := by
  simp only [floatField, fieldOf_of_mem hk hm, JsonValue.float, JsonNumber.ofFloat]

theorem structField_of_mem {fs inner : List (String × JsonValue)} {name : String}
    (hk : KeysDistinct fs) (hm : (name, .object inner) ∈ fs) : structField fs name = some inner := by
  simp only [structField, fieldOf_of_mem hk hm, Option.getD_some, objectFields]

theorem keysDistinct_singleton (kv : String × JsonValue) : KeysDistinct [kv] :=
  List.nodup_singleton _

theorem listField_of_mem {α : Type} {dec : JsonValue → Option α} {fs : List (String × JsonValue)}
    {name : String} {xs : List JsonValue} (hk : KeysDistinct fs) (hm : (name, .array xs) ∈ fs) :
    listField dec fs name = xs.mapM dec := by
  simp only [listField, fieldOf_of_mem hk hm]

theorem intValue_int (n : BitVec 64) : intValue (.int n.toInt) = some n := by
  have hlt := n.isLt
  have hb : -2 ^ 63 ≤ n.toInt ∧ n.toInt < 2 ^ 63 := by
    rw [BitVec.toInt_eq_toNat_cond]; split_ifs <;> omega
  simp only [intValue, JsonValue.int, JsonNumber.ofInt, Rat.intCast_num, true_and, if_pos hb,
    Option.some.injEq]
  apply BitVec.eq_of_toNat_eq
  rw [BitVec.toNat_ofInt, BitVec.toInt_eq_toNat_cond]
  split_ifs <;> omega

theorem intField_of_mem {fs : List (String × JsonValue)} {name : String} {n : BitVec 64}
    (hk : KeysDistinct fs) (hm : (name, .int n.toInt) ∈ fs) : intField fs name = some n := by
  simp only [intField, fieldOf_of_mem hk hm, Option.elim, intValue_int]

end RosbridgeFleet.GoBasics
