import FuturesAgentOs.PyModel.Digits
import FuturesAgentOs.PyModel.Dict
import Mathlib.Data.List.Sort

namespace PyModel

/-!
# JSON

`json.dumps(v, sort_keys=True, separators=(",", ":"), ensure_ascii=True)` and `json.loads`.

* `quote`, `render`, `dumps` — writing;
* `scanString`, `scanNumber`, `scanValue`, `loads` — reading.

Writing refuses floats, as the callers' `_canonical_json_value` does, and both directions
refuse integers of more than 4300 digits, the default limit of `int` and `str`.
-/

/-- A JSON value. -/
inductive Json where
  | null
  | bool (b : Bool)
  | int (n : ℤ)
  | float (literal : Text)
  | str (t : Text)
  | arr (items : List Json)
  | obj (items : List (Text × Json))
  deriving Repr

namespace Json

/-- **Induction on JSON values.** -/
@[elab_as_elim]
theorem induction {P : Json → Prop} (null : P .null) (bool : ∀ b, P (.bool b))
    (int : ∀ n, P (.int n)) (float : ∀ t, P (.float t)) (str : ∀ t, P (.str t))
    (arr : ∀ items : List Json, (∀ v ∈ items, P v) → P (.arr items))
    (obj : ∀ items : List (Text × Json), (∀ p ∈ items, P p.2) → P (.obj items)) (v : Json) :
    P v := by
  induction hn : sizeOf v using Nat.strong_induction_on generalizing v with
  | _ n ih =>
  subst hn
  rcases v with _ | b | m | t | t | items | items
  · exact null
  · exact bool b
  · exact int m
  · exact float t
  · exact str t
  · refine arr items fun w hw => ih _ ?_ w rfl
    have := List.sizeOf_lt_of_mem hw
    simp only [Json.arr.sizeOf_spec]
    omega
  · refine obj items fun ⟨k, w⟩ hp => ih _ ?_ w rfl
    have := List.sizeOf_lt_of_mem hp
    simp only [Json.obj.sizeOf_spec, Prod.mk.sizeOf_spec] at this ⊢
    omega

/-! ### Characters -/

/-- The double quote. -/
def quoteChar : CodePoint := 34

/-- The backslash. -/
def backslash : CodePoint := 92

/-- The opening brace. -/
def openBrace : CodePoint := 123

/-- The closing brace. -/
def closeBrace : CodePoint := 125

/-- The letter of a two-character escape. -/
def escapeLetter (c : CodePoint) : Option CodePoint :=
  if c = quoteChar then some quoteChar
  else if c = backslash then some backslash
  else if c.val = 8 then some (Text.ofChar 'b')
  else if c.val = 9 then some (Text.ofChar 't')
  else if c.val = 10 then some (Text.ofChar 'n')
  else if c.val = 12 then some (Text.ofChar 'f')
  else if c.val = 13 then some (Text.ofChar 'r')
  else none

/-- `\uXXXX` -/
def unicodeEscape (n : ℕ) : Text := backslash :: Text.ofChar 'u' :: Text.hex 4 n

/-- A character as `ensure_ascii` writes it. -/
def escape (c : CodePoint) : Text :=
  match escapeLetter c with
  | some letter => [backslash, letter]
  | none =>
    if 32 ≤ c.val ∧ c.val ≤ 126 then [c]
    else if c.val < 0x10000 then unicodeEscape c.val
    else
      unicodeEscape (0xd800 + (c.val - 0x10000) / 0x400)
        ++ unicodeEscape (0xdc00 + (c.val - 0x10000) % 0x400)

/-- A string between quotes. -/
def quote (t : Text) : Text := quoteChar :: (t.flatMap escape ++ [quoteChar])

/-! ### Writing -/

/-- The order of keys. -/
def keyLE {α : Type} (p q : Text × α) : Prop := Text.le p.1 q.1 = true

instance {α : Type} (p q : Text × α) : Decidable (keyLE p q) :=
  inferInstanceAs (Decidable (_ = true))

/-- Texts with commas between them. -/
def commas : List Text → Text
  | [] => []
  | [t] => t
  | t :: ts => t ++ Text.ofChar ',' :: commas ts

/-- A member of an object. -/
def member (p : Text × Text) : Text := quote p.1 ++ Text.ofChar ':' :: p.2

mutual

/-- The text of a value that `dumps` accepts. -/
def render : Json → Text
  | null => "null"
  | bool true => "true"
  | bool false => "false"
  | int n => Text.ofInt n
  | float literal => literal
  | str t => quote t
  | arr items => Text.ofChar '[' :: (commas (renderItems items) ++ [Text.ofChar ']'])
  | obj items =>
    openBrace
      :: (commas (((renderMembers items).insertionSort keyLE).map member) ++ [closeBrace])

/-- The texts of the items of an array. -/
def renderItems : List Json → List Text
  | [] => []
  | v :: vs => render v :: renderItems vs

/-- The texts of the members of an object, with their keys. -/
def renderMembers : List (Text × Json) → List (Text × Text)
  | [] => []
  | (k, v) :: rest => (k, render v) :: renderMembers rest

end

mutual

/-- `dumps` accepts the value: no float, and no integer that is too long. -/
def isWritable : Json → Bool
  | int n => (Text.ofNat n.natAbs).length ≤ maxStrDigits
  | float _ => false
  | arr items => areWritable items
  | obj items => membersWritable items
  | _ => true

/-- `isWritable` on the items of an array. -/
def areWritable : List Json → Bool
  | [] => true
  | v :: vs => isWritable v && areWritable vs

/-- `isWritable` on the members of an object. -/
def membersWritable : List (Text × Json) → Bool
  | [] => true
  | (_, v) :: rest => isWritable v && membersWritable rest

end

/-- `json.dumps(v, sort_keys=True, separators=(",", ":"), ensure_ascii=True)`, `none` standing
for its `ValueError`. -/
def dumps (v : Json) : Option Text := if v.isWritable then some v.render else none

/-! ### Reading strings -/

/-- Four hexadecimal digits, and what follows them. -/
def scanHex4 : Text → Option (Fin 0x10000 × Text)
  | a :: b :: c :: d :: rest => do
    let a ← Text.hexValue a
    let b ← Text.hexValue b
    let c ← Text.hexValue c
    let d ← Text.hexValue d
    some (⟨(((a * 16 + b) * 16 + c) * 16 + d) % 0x10000, Nat.mod_lt _ (by decide)⟩, rest)
  | _ => none

/-- A high surrogate. -/
def isHigh (n : ℕ) : Bool := 0xd800 ≤ n && n ≤ 0xdbff

/-- A low surrogate. -/
def isLow (n : ℕ) : Bool := 0xdc00 ≤ n && n ≤ 0xdfff

/-- The code point of a surrogate pair. -/
def joinSurrogates (high low : ℕ) : CodePoint :=
  ⟨(0x10000 + (high - 0xd800) * 0x400 + (low - 0xdc00)) % 0x110000, Nat.mod_lt _ (by decide)⟩

/-- The character of a `\u` escape: a high surrogate takes a low one that follows it along. -/
def scanUnicode (t : Text) : Option (CodePoint × Text) := do
  let (n, rest) ← scanHex4 t
  let single : CodePoint := ⟨n.val, by omega⟩
  if isHigh n then
    match rest with
    | b :: u :: rest' =>
      if b = backslash ∧ u = Text.ofChar 'u' then do
        let (m, rest'') ← scanHex4 rest'
        if isLow m then some (joinSurrogates n m, rest'') else some (single, rest)
      else some (single, rest)
    | _ => some (single, rest)
  else some (single, rest)

/-- The character of a two-character escape. -/
def unescapeLetter (letter : CodePoint) : Option CodePoint :=
  if letter = quoteChar then some quoteChar
  else if letter = backslash then some backslash
  else if letter = Text.ofChar '/' then some (Text.ofChar '/')
  else if letter = Text.ofChar 'b' then some 8
  else if letter = Text.ofChar 't' then some 9
  else if letter = Text.ofChar 'n' then some 10
  else if letter = Text.ofChar 'f' then some 12
  else if letter = Text.ofChar 'r' then some 13
  else none

/-- The next character of a string, `none` at the closing quote, and what follows it. -/
def scanChar : Text → Option (Option CodePoint × Text)
  | [] => none
  | c :: rest =>
    if c = quoteChar then some (none, rest)
    else if c = backslash then
      match rest with
      | [] => none
      | letter :: rest' =>
        if letter = Text.ofChar 'u' then
          (scanUnicode rest').map (fun (c, rest'') => (some c, rest''))
        else (unescapeLetter letter).map (fun c => (some c, rest'))
    else if c.val < 32 then none
    else some (some c, rest)

/-- The rest of a string after its opening quote. -/
def scanString : (fuel : ℕ) → Text → Option (Text × Text)
  | 0, _ => none
  | fuel + 1, t =>
    match scanChar t with
    | none => none
    | some (none, rest) => some ([], rest)
    | some (some c, rest) => (scanString fuel rest).map (fun (t, rest') => (c :: t, rest'))

/-! ### Reading numbers -/

/-- The digits after a point, with the point; nothing without them. -/
def scanFraction (t : Text) : Text × Text :=
  match t with
  | c :: rest =>
    if c = Text.ofChar '.' ∧ (spanDigits rest).1 ≠ [] then
      (c :: (spanDigits rest).1, (spanDigits rest).2)
    else ([], t)
  | [] => ([], t)

/-- The exponent with its letter and sign; nothing without digits. -/
def scanExponent (t : Text) : Text × Text :=
  match t with
  | c :: rest =>
    if c = Text.ofChar 'e' ∨ c = Text.ofChar 'E' then
      let (sign, digits) := match rest with
        | s :: rest' =>
          if s = Text.ofChar '+' ∨ s = Text.ofChar '-' then ([s], rest') else ([], rest)
        | [] => ([], rest)
      if (spanDigits digits).1 ≠ [] then
        (c :: (sign ++ (spanDigits digits).1), (spanDigits digits).2)
      else ([], t)
    else ([], t)
  | [] => ([], t)

/-- The digits of an integer part: a single zero, or a run that starts with another digit. -/
def scanInteger (t : Text) : Option (Text × Text) :=
  match t with
  | c :: rest =>
    if c = Text.ofChar '0' then some ([c], rest)
    else if isDigit c then some (spanDigits t)
    else none
  | [] => none

/-- A number. -/
def scanNumber (t : Text) : Option (Json × Text) := do
  let (negative, body) := match t with
    | c :: rest => if c = Text.ofChar '-' then (true, rest) else (false, t)
    | [] => (false, t)
  let (digits, rest) ← scanInteger body
  let (fraction, rest) := scanFraction rest
  let (exponent, rest) := scanExponent rest
  let sign : Text := if negative then [Text.ofChar '-'] else []
  if fraction = [] ∧ exponent = [] then
    if maxStrDigits < digits.length then none
    else do
      let n ← parseDigits digits
      some (.int (if negative then -(n : ℤ) else n), rest)
  else some (.float (sign ++ digits ++ fraction ++ exponent), rest)

/-! ### Reading values -/

/-- `[ \t\n\r]*` -/
def skipSpace (t : Text) : Text :=
  t.dropWhile (fun c => c.val == 32 || c.val == 9 || c.val == 10 || c.val == 13)

/-- What follows a literal at the front. -/
def afterLiteral (literal t : Text) : Option Text :=
  if literal.isPrefixOf t then some (t.drop literal.length) else none

/-- A value that is not a string, an array or an object. -/
def scanAtom (t : Text) : Option (Json × Text) :=
  match afterLiteral "null" t, afterLiteral "true" t, afterLiteral "false" t,
    afterLiteral "NaN" t, afterLiteral "Infinity" t, afterLiteral "-Infinity" t with
  | some rest, _, _, _, _, _ => some (.null, rest)
  | _, some rest, _, _, _, _ => some (.bool true, rest)
  | _, _, some rest, _, _, _ => some (.bool false, rest)
  | _, _, _, some rest, _, _ => some (.float "NaN", rest)
  | _, _, _, _, some rest, _ => some (.float "Infinity", rest)
  | _, _, _, _, _, some rest => some (.float "-Infinity", rest)
  | _, _, _, _, _, _ => scanNumber t

/-- The items of a Python dict built from pairs: the last value of a key, at its first place. -/
def dictItems (pairs : List (Text × Json)) : List (Text × Json) :=
  pairs.foldl (fun items p => Dict.assign p.1 p.2 items) []

mutual

/-- A value at the front of a text, and what follows it. -/
def scanValue : (fuel : ℕ) → Text → Option (Json × Text)
  | 0, _ => none
  | fuel + 1, t =>
    match t with
    | [] => none
    | c :: rest =>
      if c = quoteChar then
        (scanString (rest.length + 1) rest).map (fun (t, rest') => (.str t, rest'))
      else if c = Text.ofChar '[' then
        match skipSpace rest with
        | [] => none
        | d :: rest' =>
          if d = Text.ofChar ']' then some (.arr [], rest')
          else (scanItems fuel (d :: rest')).map (fun (items, rest'') => (.arr items, rest''))
      else if c = openBrace then
        match skipSpace rest with
        | [] => none
        | d :: rest' =>
          if d = closeBrace then some (.obj [], rest')
          else (scanMembers fuel (d :: rest')).map
            (fun (pairs, rest'') => (.obj (dictItems pairs), rest''))
      else scanAtom t

/-- The items of an array up to its closing bracket. -/
def scanItems : (fuel : ℕ) → Text → Option (List Json × Text)
  | 0, _ => none
  | fuel + 1, t =>
    match scanValue fuel t with
    | none => none
    | some (v, rest) =>
      match skipSpace rest with
      | [] => none
      | d :: rest' =>
        if d = Text.ofChar ']' then some ([v], rest')
        else if d = Text.ofChar ',' then
          (scanItems fuel (skipSpace rest')).map (fun (vs, rest'') => (v :: vs, rest''))
        else none

/-- The members of an object up to its closing brace. -/
def scanMembers : (fuel : ℕ) → Text → Option (List (Text × Json) × Text)
  | 0, _ => none
  | fuel + 1, t =>
    match t with
    | [] => none
    | c :: afterQuote =>
      if c ≠ quoteChar then none
      else
        match scanString (afterQuote.length + 1) afterQuote with
        | none => none
        | some (key, rest) =>
          match skipSpace rest with
          | [] => none
          | colon :: rest =>
            if colon ≠ Text.ofChar ':' then none
            else
              match scanValue fuel (skipSpace rest) with
              | none => none
              | some (v, rest) =>
                match skipSpace rest with
                | [] => none
                | d :: rest' =>
                  if d = closeBrace then some ([(key, v)], rest')
                  else if d = Text.ofChar ',' then
                    (scanMembers fuel (skipSpace rest')).map
                      (fun (pairs, rest'') => ((key, v) :: pairs, rest''))
                  else none

end

/-- `json.loads(t)`, `none` standing for its `JSONDecodeError` or `ValueError`. -/
def loads (t : Text) : Option Json :=
  match scanValue (t.length + 1) (skipSpace t) with
  | some (v, rest) => if skipSpace rest = [] then some v else none
  | none => none

/-- `value[key]` in a dict. -/
def lookup (key : Text) (items : List (Text × Json)) : Option Json :=
  (items.find? (fun p => p.1 = key)).map Prod.snd

end Json

end PyModel
