import TokenLexer.Value

/-!
# Equality of values

Numbers are equal across their types when they are the same number, so `1`, `1.0`
and `True` are one key of a dictionary. Containers are equal by their contents,
lexers by their shape: a recording lexer does not look at what it has recorded.
Whether two counters have counted the same is asked of `alike`.

Keys and the parts of a container are compared by asking first whether they are one
object. This matters for `nan`, the one value that is not equal to itself: as a part
or as a key, it is the same where it is the same object.
-/

namespace TokenLexer

namespace Binary64

/-- Whether `a * 2 ^ m` and `b * 2 ^ n` are the same number. -/
def sameScaled (a m b n : Int) : Bool :=
  a * power 2 (m - n) == b * power 2 (n - m)

/-- One object or equal numbers: the two zeros are equal. -/
def same : Binary64 → Binary64 → Bool
  | .nan (some one), .nan (some other) => one == other
  | .infinite a, .infinite b => a == b
  | x, y =>
    match x.ratio?, y.ratio? with
    | some (a, m), some (b, n) => sameScaled a m b n
    | _, _ => false

/-- Equality with a whole number. -/
def sameInt (x : Binary64) (i : Int) : Bool :=
  match x.ratio? with
  | some (a, m) => sameScaled a m i 0
  | none => false

end Binary64

/-- Patterns are equal when they were compiled from the same source in the same
way, tables only when they are one table. -/
def Pattern.same {V : Type} : Pattern V → Pattern V → Bool
  | .linear s _, .linear t _ => s == t
  | .backtracking s f _, .backtracking t g _ => s == t && f == g
  | .ofBytes d f s _, .ofBytes e g t _ => d == e && f == g && s == t
  | .table s _, .table t _ => s == t
  | _, _ => false

namespace Value

/-- The whole number that a truth value or an integer is. -/
def whole? : Value → Option Int
  | .bool b => some (if b then 1 else 0)
  | .int i => some i
  | _ => Option.none

/-- Equality of two values of which neither is a container or an object of the library. -/
def samePlain (a b : Value) : Bool :=
  match a, b with
  | .none, .none => true
  | .text s, .text t => s == t
  | .bytes s, .bytes t => s == t
  | .float x, .float y => x.same y
  | .builder m, .builder n => m == n
  | .object _ m, .object _ n => m == n
  | .float x, other | other, .float x => other.whole?.any x.sameInt
  | a, b =>
    match a.whole?, b.whole? with
    | some i, some j => i == j
    | _, _ => false

end Value

mutual

def Value.same (alike : Nat → Nat → Bool) : Value → Value → Bool
  | .list as, b => match b with
    | .list bs => Value.sameList alike as bs
    | _ => false
  | .tuple as, b => match b with
    | .tuple bs => Value.sameList alike as bs
    | _ => false
  | .dict as, b => match b with
    | .dict bs => as.length == bs.length && Value.sameEntries alike as bs
    | _ => false
  | .mapper m, b => match b with
    | .mapper n => Mapper.same alike m n
    | _ => false
  | .lexer l, b => match b with
    | .lexer k => Lexer.same alike l k
    | _ => false
  | .pattern p, b => match b with
    | .pattern q => p.same q
    | _ => false
  | .config as, b => match b with
    | .config bs => Value.sameRules alike as bs
    | _ => false
  | .registry as, b => match b with
    | .registry bs => as.length == bs.length && Value.sameConverters alike as bs
    | _ => false
  | a, b => Value.samePlain a b

def Value.sameList (alike : Nat → Nat → Bool) : List Value → List Value → Bool
  | [], [] => true
  | a :: as, b :: bs => Value.same alike a b && Value.sameList alike as bs
  | _, _ => false

/-- Whether every entry of the first dictionary is in the second. -/
def Value.sameEntries (alike : Nat → Nat → Bool) :
    List (Value × Value) → List (Value × Value) → Bool
  | [], _ => true
  | (key, value) :: as, bs =>
    bs.any (fun entry => Value.same alike key entry.1 && Value.same alike value entry.2) &&
      Value.sameEntries alike as bs

def Value.sameRules (alike : Nat → Nat → Bool) :
    List (Value × Value) → List (Value × Value) → Bool
  | [], [] => true
  | (regex, convert) :: as, (regex', convert') :: bs =>
    Value.same alike regex regex' && Value.same alike convert convert' &&
      Value.sameRules alike as bs
  | _, _ => false

def Value.sameConverters (alike : Nat → Nat → Bool) :
    List (Value × Mapper Value) → List (Value × Mapper Value) → Bool
  | [], _ => true
  | (name, mapper) :: as, bs =>
    bs.any (fun entry => Value.same alike name entry.1 && Mapper.same alike mapper entry.2) &&
      Value.sameConverters alike as bs

def Mapper.same (alike : Nat → Nat → Bool) : Mapper Value → Mapper Value → Bool
  | .function f, .function g => f == g
  | .counter p m, .counter q n => p == q || (Mapper.same alike m n && alike p q)
  | .inert a, .inert b => Value.same alike a b
  | _, _ => false

def Lexer.same (alike : Nat → Nat → Bool) : Lexer Value → Lexer Value → Bool
  | .empty, .empty => true
  | .bare m, .bare n => m == n
  | .pattern p, .pattern q => p.same q
  | .mapped l m, .mapped k n => Lexer.same alike l k && Mapper.same alike m n
  | .orElse l m, .orElse k n => Lexer.same alike l k && Lexer.same alike m n
  | .recording _ l, .recording _ k => Lexer.same alike l k
  | .constant a, .constant b => Value.same alike a b
  | .stray a, .stray b => Value.same alike a b
  | _, _ => false

end

namespace Value

/-- Equality of two keys, which hold no counters. -/
def sameKey (a b : Value) : Bool :=
  same (fun p q => p == q) a b

/-- The value under a key. -/
def find? {α : Type} (key : Value) : List (Value × α) → Option α
  | [] => Option.none
  | (other, value) :: rest => if sameKey other key then some value else find? key rest

/-- Sets the value under a key, in its old place if the key is there already. -/
def insert {α : Type} (key : Value) (value : α) : List (Value × α) → List (Value × α)
  | [] => [(key, value)]
  | (other, old) :: rest =>
    if sameKey other key then (other, value) :: rest else (other, old) :: insert key value rest

@[simp] theorem sameKey_text (s t : Text) : sameKey (.text s) (.text t) = (s == t) := by
  simp [sameKey, same, samePlain]

@[simp] theorem sameKey_int (i j : Int) : sameKey (.int i) (.int j) = (i == j) := by
  simp [sameKey, same, samePlain, whole?]

/-- Nothing but a text is the same key as the text. -/
theorem sameKey_text_iff {key : Text} {other : Value} :
    sameKey other (.text key) = true ↔ other = .text key := by
  cases other with
  | text t => simp
  | _ => simp [sameKey, same, samePlain, whole?]

theorem text_sameKey_iff {key : Text} {other : Value} :
    sameKey (.text key) other = true ↔ other = .text key := by
  cases other with
  | text t => rw [sameKey_text, beq_iff_eq, text.injEq, eq_comm]
  | _ => simp [sameKey, same, samePlain, whole?]

/-- A text is looked up in vain just when it is no key. -/
theorem find?_text_eq_none_iff {α : Type} {key : Text} {entries : List (Value × α)} :
    find? (.text key) entries = Option.none ↔ .text key ∉ entries.map (·.1) := by
  induction entries with
  | nil => simp [find?]
  | cons entry rest ih =>
    rw [find?, List.map_cons, List.mem_cons, not_or, ← ih]
    split
    · next same => simp [sameKey_text_iff.mp same]
    · next different =>
      have other : entry.1 ≠ .text key := mt sameKey_text_iff.mpr different
      simp [other.symm]

end Value

end TokenLexer
