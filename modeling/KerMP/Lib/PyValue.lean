/-
Python values as they come off a JSON wire, and the built-ins applied to them.

`Json` is what `json.loads` returns: None, bool, int, float, str, list, str-keyed dict. The functions below are the
built-ins under their own names (`truthy` is `bool(x)`, `str`, `int`, `dict`, `iter`, `==`, `.get`, `[...]`), with the
exceptions they raise (`Exc`). Strings are sequences of Unicode scalar values.

- A float is held as the shortest decimal that reads back as it, i.e. as its `repr`: `float.repr` is then formatting,
  and `float.toRat` is the double nearest to the decimal.
- `pyEq` is Python's `==`: True, 1 and 1.0 are equal, dicts are compared without order.
- Lemmas: `toStr_str` (str of a str is that str), `beq_iff` (decidable equality of the trees), `lookup_setField`.
-/
import Mathlib.Data.Rat.Defs
import Mathlib.Data.Nat.Log
import Mathlib.Data.List.Sort
import Mathlib.Tactic.SplitIfs

namespace Py

/-! ## Exceptions -/

/-- the exception classes the built-ins and the modelled code raise, with their argument -/
inductive Exc where
  | valueError (msg : String)
  | keyError (key : String)
  | typeError (msg : String)
  | attributeError (msg : String)
  | overflowError (msg : String)
  | zeroDivisionError (msg : String)
  | runtimeError (msg : String)
  | assertionError
  | permissionError (msg : String)
  | osError (msg : String)
deriving DecidableEq, Repr

/-- both halves of a computation that did not raise -/
theorem bind_ok {α β : Type} {x : Except Exc α} {f : α → Except Exc β} {b : β} (h : (x >>= f) = .ok b) :
    ∃ a, x = .ok a ∧ f a = .ok b := by
  cases x with
  | error e => cases h
  | ok a => exact ⟨a, rfl, h⟩

theorem map_ok {α β : Type} {x : Except Exc α} {f : α → β} {b : β} (h : x.map f = .ok b) :
    ∃ a, x = .ok a ∧ f a = b := by
  cases x with
  | error e => cases h
  | ok a => exact ⟨a, rfl, Except.ok.inj h⟩

@[simp] theorem ok_bind {α β : Type} (a : α) (f : α → Except Exc β) : (Except.ok a >>= f) = f a := rfl

@[simp] theorem error_bind {α β : Type} (e : Exc) (f : α → Except Exc β) : (Except.error e >>= f) = .error e := rfl

@[simp] theorem pure_eq_ok {α : Type} (a : α) : (pure a : Except Exc α) = .ok a := rfl

/-- `repr` of one character inside a str quoted with `q` -/
def reprChar (q c : Char) : List Char :=
  if c = q ∨ c = '\\' then ['\\', c]
  else if c = '\n' then ['\\', 'n']
  else if c = '\r' then ['\\', 'r']
  else if c = '\t' then ['\\', 't']
  else if c.toNat < 32 ∨ c.toNat = 127 then
    ['\\', 'x', Nat.digitChar (c.toNat / 16), Nat.digitChar (c.toNat % 16)]
  else [c]

/-- `repr(s)`: single quotes unless the text has a single and no double quote -/
def reprStr (s : String) : String :=
  let q := if s.toList.contains '\'' && !s.toList.contains '"' then '"' else '\''
  String.ofList (q :: s.toList.flatMap (reprChar q) ++ [q])

/-- `str(exc)`; a KeyError shows the `repr` of its key -/
def Exc.str : Exc → String
  | .valueError m | .typeError m | .attributeError m | .overflowError m | .zeroDivisionError m
  | .runtimeError m | .permissionError m | .osError m => m
  | .keyError k => reprStr k
  | .assertionError => ""

/-- `type(exc).__name__` -/
def Exc.typeName : Exc → String
  | .valueError _ => "ValueError"
  | .keyError _ => "KeyError"
  | .typeError _ => "TypeError"
  | .attributeError _ => "AttributeError"
  | .overflowError _ => "OverflowError"
  | .zeroDivisionError _ => "ZeroDivisionError"
  | .runtimeError _ => "RuntimeError"
  | .assertionError => "AssertionError"
  | .permissionError _ => "PermissionError"
  | .osError _ => "OSError"

def Exc.isValueError : Exc → Bool
  | .valueError _ => true
  | _ => false

/-! ## Values -/

/-- a float: nan, an infinity, or ±digits·10^exp with the digits of its `repr` -/
inductive Flt where
  | nan
  | inf (neg : Bool)
  | dec (neg : Bool) (digits : ℕ) (exp : ℤ)
deriving DecidableEq, Repr

inductive Json where
  | null
  | bool (b : Bool)
  | int (n : ℤ)
  | float (x : Flt)
  | str (s : String)
  | arr (xs : List Json)
  | obj (kvs : List (String × Json))
deriving Repr, Inhabited

namespace Json

mutual
def beq : Json → Json → Bool
  | .null, .null => true
  | .bool a, .bool b => a == b
  | .int a, .int b => a == b
  | .float a, .float b => a == b
  | .str a, .str b => a == b
  | .arr a, .arr b => beqList a b
  | .obj a, .obj b => beqFields a b
  | _, _ => false
def beqList : List Json → List Json → Bool
  | [], [] => true
  | a :: as, b :: bs => beq a b && beqList as bs
  | _, _ => false
def beqFields : List (String × Json) → List (String × Json) → Bool
  | [], [] => true
  | (k, a) :: as, (l, b) :: bs => k == l && beq a b && beqFields as bs
  | _, _ => false
end

mutual
theorem beq_iff : ∀ a b : Json, beq a b = true ↔ a = b
  | .null, b => by cases b <;> simp [beq]
  | .bool _, b => by cases b <;> simp [beq]
  | .int _, b => by cases b <;> simp [beq]
  | .float _, b => by cases b <;> simp [beq]
  | .str _, b => by cases b <;> simp [beq]
  | .arr xs, b => by
    cases b with
    | arr ys => simp [beq, beqList_iff xs ys]
    | _ => simp [beq]
  | .obj xs, b => by
    cases b with
    | obj ys => simp [beq, beqFields_iff xs ys]
    | _ => simp [beq]
theorem beqList_iff : ∀ xs ys : List Json, beqList xs ys = true ↔ xs = ys
  | [], ys => by cases ys <;> simp [beqList]
  | x :: xs, ys => by
    cases ys with
    | nil => simp [beqList]
    | cons y ys => simp [beqList, beq_iff x y, beqList_iff xs ys]
theorem beqFields_iff : ∀ xs ys : List (String × Json), beqFields xs ys = true ↔ xs = ys
  | [], ys => by cases ys <;> simp [beqFields]
  | (k, x) :: xs, ys => by
    cases ys with
    | nil => simp [beqFields]
    | cons y ys =>
      obtain ⟨l, y⟩ := y
      simp [beqFields, beq_iff x y, beqFields_iff xs ys, and_assoc]
end

instance : DecidableEq Json := fun a b => decidable_of_iff _ (beq_iff a b)

/-- `bool(x)` -/
def truthy : Json → Bool
  | .null => false
  | .bool b => b
  | .int n => n != 0
  | .float (.dec _ d _) => d != 0
  | .float _ => true
  | .str s => s != ""
  | .arr xs => !xs.isEmpty
  | .obj kvs => !kvs.isEmpty

/-- `x or y` -/
def or (x y : Json) : Json := if x.truthy then x else y

/-- `type(x).__name__` -/
def typeName : Json → String
  | .null => "NoneType"
  | .bool _ => "bool"
  | .int _ => "int"
  | .float _ => "float"
  | .str _ => "str"
  | .arr _ => "list"
  | .obj _ => "dict"

end Json

/-! ## Numbers -/

/-- the decimal digits of a float placed around its point, as `repr` writes them -/
def Flt.repr : Flt → String
  | .nan => "nan"
  | .inf neg => if neg then "-inf" else "inf"
  | .dec neg d e =>
    let ds := (toString d).toList
    let n := ds.length
    let point : ℤ := n + e
    let body :=
      if d = 0 then ['0', '.', '0']
      else if -4 < point ∧ point ≤ 16 then
        if point ≤ 0 then ['0', '.'] ++ List.replicate (-point).toNat '0' ++ ds
        else if (n : ℤ) ≤ point then ds ++ List.replicate (point - n).toNat '0' ++ ['.', '0']
        else ds.take point.toNat ++ '.' :: ds.drop point.toNat
      else
        let x := point - 1
        let xs := (toString x.natAbs).toList
        (if n = 1 then ds else ds.take 1 ++ '.' :: ds.drop 1) ++ ['e', if x < 0 then '-' else '+'] ++
          (if xs.length = 1 then '0' :: xs else xs)
    String.ofList ((if neg then ['-'] else []) ++ body)

/-- `2 ^ e` for any integer exponent -/
def twoPow (e : ℤ) : ℚ := if 0 ≤ e then 2 ^ e.toNat else 1 / 2 ^ (-e).toNat

def tenPow (e : ℤ) : ℚ := if 0 ≤ e then 10 ^ e.toNat else 1 / 10 ^ (-e).toNat

/-- the nearest integer, ties to even -/
def roundEven (q : ℚ) : ℕ :=
  let n := q.num.natAbs / q.den
  let r := 2 * (q.num.natAbs % q.den)
  if q.den < r ∨ (r = q.den ∧ n % 2 = 1) then n + 1 else n

/-- the double nearest to a positive rational; none when it is beyond the largest one -/
def nearestDouble (q : ℚ) : Option ℚ :=
  let e₀ : ℤ := (q.num.natAbs.log2 : ℤ) - q.den.log2
  let e := if q < twoPow e₀ then e₀ - 1 else e₀
  let ulp := twoPow (max (e - 52) (-1074))
  let x := roundEven (q / ulp) * ulp
  if x < twoPow 1024 then some x else none

/-- the value of a finite float: the double nearest to its decimal -/
def Flt.toRat : Flt → Option ℚ
  | .dec neg d e =>
    if d = 0 then some 0
    else (nearestDouble (d * tenPow e)).map fun x => if neg then -x else x
  | _ => none

/-- `int(x)` of a float: towards zero -/
def Flt.toInt (x : Flt) : Except Exc ℤ :=
  match x with
  | .nan => .error (.valueError "cannot convert float NaN to integer")
  | x =>
    match x.toRat with
    | some q => .ok (q.num.tdiv q.den)
    | none => .error (.overflowError "cannot convert float infinity to integer")

/-- the fewest digits (at most 17) that read back as the double `x > 0`, and of these the nearest to it; `e` is its
decimal exponent -/
def shortest (x : ℚ) (e : ℤ) : ℕ → ℕ → Flt
  | _, 0 => .dec false (roundEven (x / tenPow (e - 16))) (e - 16)
  | k, fuel + 1 =>
    let q := x / tenPow (e - k)
    let below := q.num.natAbs / q.den
    match [roundEven q, below, below + 1].find? fun d : ℕ => nearestDouble (d * tenPow (e - k)) = some x with
    | some d => if d % 10 = 0 then .dec false (d / 10) (e - k + 1) else .dec false d (e - k)
    | none => shortest x e (k + 1) fuel

/-- the float nearest to a rational -/
def Flt.ofRat (q : ℚ) : Option Flt :=
  if q = 0 then some (.dec false 0 0)
  else
    let a := if q < 0 then -q else q
    match nearestDouble a with
    | none => none
    | some x =>
      if x = 0 then some (.dec (q < 0) 0 0)
      else
        let e₀ : ℤ := (Nat.log 10 x.num.natAbs : ℤ) - Nat.log 10 x.den
        match shortest x (if x < tenPow e₀ then e₀ - 1 else e₀) 0 17 with
        | .dec _ d e => some (.dec (q < 0) d e)
        | f => some f

/-- the number behind a bool, int or finite float -/
def Json.num? : Json → Option ℚ
  | .bool b => some (if b then 1 else 0)
  | .int n => some n
  | .float x => x.toRat
  | _ => none

def isSpace (c : Char) : Bool := c.isWhitespace || c.toNat == 11 || c.toNat == 12

/-- digits with single underscores between them -/
def readDigits : List Char → Option ℕ → Option ℕ
  | [], acc => acc
  | '_' :: c :: cs, some acc => if c.isDigit then readDigits cs (some (acc * 10 + (c.toNat - 48))) else none
  | c :: cs, acc => if c.isDigit then readDigits cs (some (acc.getD 0 * 10 + (c.toNat - 48))) else none

/-- `int(s)` of a str: blanks around, one sign, ASCII digits -/
def intOfStr (s : String) : Except Exc ℤ :=
  let cs := ((s.toList.dropWhile isSpace).reverse.dropWhile isSpace).reverse
  let r := match cs with
    | '-' :: ds => (readDigits ds none).map fun n => -(n : ℤ)
    | '+' :: ds => (readDigits ds none).map fun n => (n : ℤ)
    | ds => (readDigits ds none).map fun n => (n : ℤ)
  match r with
  | some n => .ok n
  | none => .error (.valueError ("invalid literal for int() with base 10: " ++ reprStr s))

namespace Json

/-- `int(x)` -/
def toInt : Json → Except Exc ℤ
  | .bool b => .ok (if b then 1 else 0)
  | .int n => .ok n
  | .float x => x.toInt
  | .str s => intOfStr s
  | j => .error (.typeError ("int() argument must be a string, a bytes-like object or a real number, not '" ++
      j.typeName ++ "'"))

/-! ## `repr`, `str` -/

mutual
/-- `repr(x)` -/
def repr : Json → String
  | .null => "None"
  | .bool b => if b then "True" else "False"
  | .int n => toString n
  | .float x => x.repr
  | .str s => reprStr s
  | .arr xs => "[" ++ reprList xs ++ "]"
  | .obj kvs => "\x7b" ++ reprFields kvs ++ "\x7d"
def reprList : List Json → String
  | [] => ""
  | [x] => repr x
  | x :: xs => repr x ++ ", " ++ reprList xs
def reprFields : List (String × Json) → String
  | [] => ""
  | [(k, x)] => reprStr k ++ ": " ++ repr x
  | (k, x) :: xs => reprStr k ++ ": " ++ repr x ++ ", " ++ reprFields xs
end

/-- `str(x)` -/
def toStr : Json → String
  | .str s => s
  | j => repr j

@[simp] theorem toStr_str (s : String) : toStr (.str s) = s := rfl

/-! ## `==` -/

mutual
/-- `a == b`: numbers by value whatever their type, dicts without order -/
def pyEq : Json → Json → Bool
  | .null, .null => true
  | .str a, .str b => a == b
  | .arr a, .arr b => pyEqList a b
  | .obj a, .obj b => a.length == b.length && pyEqFields a b
  | .float (.inf s), .float (.inf t) => s == t
  | a, b =>
    match a.num?, b.num? with
    | some p, some q => p == q
    | _, _ => false
def pyEqList : List Json → List Json → Bool
  | [], [] => true
  | a :: as, b :: bs => pyEq a b && pyEqList as bs
  | _, _ => false
def pyEqFields : List (String × Json) → List (String × Json) → Bool
  | [], _ => true
  | (k, a) :: as, bs => (match bs.lookup k with | some b => pyEq a b | none => false) && pyEqFields as bs
end

/-- `a <= b` of two numbers -/
def pyLe (a b : Json) : Except Exc Bool :=
  match a, b with
  | .float .nan, _ | _, .float .nan => .ok false
  | .float (.inf s), .float (.inf t) => .ok (s || !t)
  | .float (.inf s), _ => .ok s
  | _, .float (.inf t) => .ok !t
  | _, _ =>
    match a.num?, b.num? with
    | some p, some q => .ok (p ≤ q)
    | _, _ => .error (.typeError ("'<=' not supported between instances of '" ++ a.typeName ++ "' and '" ++
        b.typeName ++ "'"))

/-- the sign of a number -/
def negative : Json → Bool
  | .int n => n < 0
  | .float (.inf neg) => neg
  | .float (.dec neg _ _) => neg
  | _ => false

/-- `a / b` -/
def trueDiv (a b : Json) : Except Exc Json :=
  let unsupported := Except.error (Exc.typeError ("unsupported operand type(s) for /: '" ++ a.typeName ++ "' and '" ++
    b.typeName ++ "'"))
  match a.num?, b.num? with
  | some p, some q =>
    if q = 0 then .error (.zeroDivisionError "division by zero")
    else
      match Flt.ofRat (p / q) with
      | some f => .ok (.float f)
      | none => .error (.overflowError "integer division result too large for a float")
  | some _, none =>
    match b with
    | .float .nan => .ok (.float .nan)
    | .float (.inf neg) => .ok (.float (.dec (a.negative != neg) 0 0))
    | _ => unsupported
  | none, some _ =>
    match a with
    | .float .nan => .ok (.float .nan)
    | .float (.inf neg) => .ok (.float (.inf (neg != b.negative)))
    | _ => unsupported
  | none, none =>
    match a, b with
    | .float _, .float _ => .ok (.float .nan)
    | _, _ => unsupported

/-- `a and b` -/
def and (a b : Json) : Json := if a.truthy then b else a

/-! ## Dicts and iteration -/

/-- `d[k] = v` on the fields of a dict: in place, or at the end -/
def setField (kvs : List (String × Json)) (k : String) (v : Json) : List (String × Json) :=
  if (kvs.map Prod.fst).contains k then kvs.map fun p => if p.1 = k then (k, v) else p else kvs ++ [(k, v)]

/-- `d.get(k, dflt)` on a dict's fields -/
def field (kvs : List (String × Json)) (k : String) (dflt : Json) : Json := (kvs.lookup k).getD dflt

/-- `x.get(k, dflt)`; only a dict has it -/
def getD (j : Json) (k : String) (dflt : Json) : Except Exc Json :=
  match j with
  | .obj kvs => .ok (field kvs k dflt)
  | j => .error (.attributeError ("'" ++ j.typeName ++ "' object has no attribute 'get'"))

/-- `x.get(k)` -/
def get (j : Json) (k : String) : Except Exc Json := j.getD k .null

/-- `x[k]` -/
def item (j : Json) (k : String) : Except Exc Json :=
  match j with
  | .obj kvs =>
    match kvs.lookup k with
    | some v => .ok v
    | none => .error (.keyError k)
  | .arr _ => .error (.typeError "list indices must be integers or slices, not str")
  | .str _ => .error (.typeError "string indices must be integers, not 'str'")
  | j => .error (.typeError ("'" ++ j.typeName ++ "' object is not subscriptable"))

/-- `list(x)`: the elements of a list, the characters of a str, the keys of a dict -/
def iter : Json → Except Exc (List Json)
  | .arr xs => .ok xs
  | .str s => .ok (s.toList.map fun c => .str (String.ofList [c]))
  | .obj kvs => .ok (kvs.map fun p => .str p.1)
  | j => .error (.typeError ("'" ++ j.typeName ++ "' object is not iterable"))

/-- the key a dict is written with by `json.dumps`; a list or dict is unhashable -/
def toKey : Json → Except Exc String
  | .str s => .ok s
  | .null => .ok "null"
  | .bool b => .ok (if b then "true" else "false")
  | .int n => .ok (toString n)
  | .float x => .ok x.repr
  | j => .error (.typeError ("unhashable type: '" ++ j.typeName ++ "'"))

/-- `dict(xs)` of a sequence of pairs. A key that is not a str is entered as `json.dumps` will write it. -/
def dictOfPairs : List Json → ℕ → List (String × Json) → Except Exc (List (String × Json))
  | [], _, acc => .ok acc
  | x :: xs, i, acc =>
    match x.iter with
    | .error _ => .error (.typeError ("cannot convert dictionary update sequence element #" ++ toString i ++
        " to a sequence"))
    | .ok [k, v] => do dictOfPairs xs (i + 1) (setField acc (← k.toKey) v)
    | .ok ys => .error (.valueError ("dictionary update sequence element #" ++ toString i ++ " has length " ++
        toString ys.length ++ "; 2 is required"))

/-- `dict(x)` -/
def toDict : Json → Except Exc (List (String × Json))
  | .obj kvs => .ok kvs
  | j => do dictOfPairs (← j.iter) 0 []

theorem lookup_cons (p : String × Json) (kvs : List (String × Json)) (k : String) :
    (p :: kvs).lookup k = if k = p.1 then some p.2 else kvs.lookup k := by
  obtain ⟨l, v⟩ := p
  rw [List.lookup_cons]
  by_cases h : k = l
  · simp [h]
  · have : (k == l) = false := by simpa using h
    simp [this, h]

theorem lookup_setField (kvs : List (String × Json)) (k k' : String) (v : Json) :
    (setField kvs k v).lookup k' = if k' = k then some v else kvs.lookup k' := by
  have hreplaced : ∀ kvs : List (String × Json), (kvs.map fun p => if p.1 = k then (k, v) else p).lookup k' =
      if k' = k then (kvs.lookup k).map fun _ => v else kvs.lookup k' := by
    intro kvs
    induction kvs with
    | nil => simp
    | cons p kvs ih =>
      rw [List.map_cons, lookup_cons, lookup_cons, lookup_cons, ih]
      by_cases hp : p.1 = k
      · simp only [hp, if_true]
        split_ifs <;> simp
      · have hpk : k ≠ p.1 := Ne.symm hp
        simp only [hp, hpk, if_false]
        split_ifs with h1 h2
        · exact absurd (h2 ▸ h1) hpk
        · rfl
        · rfl
        · rfl
  unfold setField
  split_ifs with hmem hk hk
  · obtain ⟨w, hw⟩ : ∃ w, kvs.lookup k = some w := by
      rw [← Option.isSome_iff_exists, List.lookup_isSome_iff]
      obtain ⟨p, hp, he⟩ := List.mem_map.1 (List.contains_iff_mem.1 hmem)
      exact ⟨p, hp, by simp [he]⟩
    rw [hreplaced, if_pos hk, hw, Option.map_some]
  · rw [hreplaced, if_neg hk]
  · have hnone : kvs.lookup k = none := by
      rw [List.lookup_eq_none_iff]
      intro p hp
      have hne : p.1 ≠ k := fun he => hmem (List.contains_iff_mem.2 (List.mem_map.2 ⟨p, hp, he⟩))
      simpa using Ne.symm hne
    rw [List.lookup_append, hk, hnone, lookup_cons]
    simp
  · rw [List.lookup_append, lookup_cons, if_neg hk]
    simp

@[simp] theorem toDict_obj (kvs : List (String × Json)) : toDict (.obj kvs) = .ok kvs := rfl

@[simp] theorem getD_obj (kvs : List (String × Json)) (k : String) (d : Json) :
    getD (.obj kvs) k d = .ok (field kvs k d) := rfl

@[simp] theorem get_obj (kvs : List (String × Json)) (k : String) : get (.obj kvs) k = .ok (field kvs k .null) := rfl

@[simp] theorem field_nil (k : String) (d : Json) : field [] k d = d := rfl

end Json

end Py
