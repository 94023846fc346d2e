/-!
# What a YAML node stands for

Every node has a kind. A tag says which, and a plain scalar without one is of the kind that its text
looks like: `Kind.ofPlain?` knows truth values, numbers, nulls and points in time. What an unknown
tag says is no kind.
-/

namespace PeFacts.Yaml

/-- What a node stands for. -/
inductive Kind
  | null
  | truth
  | integer
  | real
  | binary
  | moment
  | text
  | sequence
  | mapping
  | set
  /-- A sequence of mappings with one entry each. -/
  | pairs
  /-- The key under which a mapping takes in others. -/
  | merge
  /-- The key of a mapping's default value. -/
  | default
  deriving Repr, DecidableEq

namespace Kind

/-- What the tags of the common kinds begin with. -/
def commonTag : String := "tag:yaml.org,2002:"

/-- The names of the common kinds. -/
def named : List (String × Kind) := [
  ("null", null), ("bool", truth), ("int", integer), ("float", real), ("binary", binary),
  ("timestamp", moment), ("str", text), ("seq", sequence), ("map", mapping), ("set", set),
  ("omap", pairs), ("pairs", pairs), ("merge", merge), ("value", default)]

/-- The kind that a tag stands for. -/
def ofTag? (tag : String) : Option Kind :=
  (named.find? fun e => commonTag ++ e.1 == tag).map (·.2)

/-- Words that are truth values. -/
def truthWords : List String := [
  "yes", "Yes", "YES", "no", "No", "NO", "true", "True", "TRUE", "false", "False", "FALSE",
  "on", "On", "ON", "off", "Off", "OFF"]

/-- Words for nothing. -/
def nullWords : List String := ["~", "null", "Null", "NULL"]

/-- Text without a sign in front. -/
def unsigned : List Char → List Char
  | '-' :: rest => rest
  | '+' :: rest => rest
  | cs => cs

/-- Text that is not empty and has only such characters. -/
def consistsOf (property : Char → Bool) (cs : List Char) : Bool := !cs.isEmpty && cs.all property

/-- A digit or an underscore. -/
def isDigitOrGap (c : Char) : Bool := c.isDigit || c == '_'

/-- Digits and underscores that begin with a digit. -/
def isDigits (cs : List Char) : Bool := cs.head?.any Char.isDigit && cs.all isDigitOrGap

/-- A number below sixty in one or two digits. -/
def isSixtieth : List Char → Bool
  | [c] => c.isDigit
  | [c, d] => '0' ≤ c && c ≤ '5' && d.isDigit
  | _ => false

/-- Parts between colons: one that `first` accepts, and then numbers below sixty. -/
def isSexagesimal (first : List Char → Bool) (cs : List Char) : Bool :=
  match cs.splitOn ':' with
  | head :: part :: parts => first head && (part :: parts).all isSixtieth
  | _ => false

/-- The text before and after the first point. -/
def splitPoint? (cs : List Char) : Option (List Char × List Char) :=
  match cs.span (· != '.') with
  | (whole, _ :: fraction) => some (whole, fraction)
  | _ => none

/-- The text is an integer. -/
def isInteger (cs : List Char) : Bool :=
  match unsigned cs with
  | '0' :: 'b' :: rest => consistsOf (fun c => c == '0' || c == '1' || c == '_') rest
  | '0' :: 'x' :: rest =>
    consistsOf (fun c => c.isDigit || ('a' ≤ c && c ≤ 'f') || ('A' ≤ c && c ≤ 'F') || c == '_') rest
  | '0' :: rest => rest.all fun c => ('0' ≤ c && c ≤ '7') || c == '_'
  | body => isDigits body || isSexagesimal isDigits body

/-- The text is nothing or the exponent of a real number, which has a sign. -/
def isExponent : List Char → Bool
  | [] => true
  | e :: sign :: digits => (e == 'e' || e == 'E') && (sign == '+' || sign == '-') &&
      consistsOf Char.isDigit digits
  | _ => false

/-- The text is a fraction, maybe empty, and maybe an exponent. -/
def isFraction (cs : List Char) : Bool := isExponent (cs.dropWhile isDigitOrGap)

/-- The text is a real number. -/
def isReal (cs : List Char) : Bool :=
  let body := unsigned cs
  let word := String.ofList body
  if [".inf", ".Inf", ".INF"].contains word then true
  else if [".nan", ".NaN", ".NAN"].contains (String.ofList cs) then true
  else
    match splitPoint? body with
    | none => false
    | some ([], fraction) => cs.head? == some '.' && fraction.head?.any Char.isDigit && isFraction fraction
    | some (whole, fraction) =>
      (isDigits whole && isFraction fraction) ||
        (isSexagesimal isDigits whole && fraction.all isDigitOrGap)

/-- The digits of a date and a time: a year, and then one or two digits each. -/
structure MomentText where
  year : List Char
  month : List Char
  day : List Char
  hour : List Char := []
  minute : List Char := []
  second : List Char := []
  /-- Hours and minutes that the place is away from universal time. -/
  zone : List Char × List Char := ([], [])
  deriving Repr, DecidableEq

/-- Splits off digits, at least `least` and at most `most` of them. -/
def takeDigits (least most : Nat) (cs : List Char) : Option (List Char × List Char) :=
  let digits := (cs.take most).takeWhile Char.isDigit
  if digits.length < least then none else some (digits, cs.drop digits.length)

/-- Takes a character off. -/
def takeChar (c : Char) : List Char → Option (List Char)
  | [] => none
  | d :: rest => if c == d then some rest else none

/-- Splits off a zone: nothing, the mark of universal time, or a sign, hours and maybe minutes. -/
def zoneOf? (cs : List Char) : Option (List Char × List Char) :=
  match cs with
  | [] => some ([], [])
  | _ =>
    match cs.dropWhile fun c => c == ' ' || c == '\t' with
    | ['Z'] => some ([], [])
    | sign :: rest => do
      if sign != '+' && sign != '-' then none
      let (hours, rest) ← takeDigits 1 2 rest
      if rest.isEmpty then return (hours, [])
      let (minutes, rest) ← takeDigits 2 2 (← takeChar ':' rest)
      if rest.isEmpty then return (hours, minutes) else none
    | [] => none

/-- The date or the date and time that a text gives. -/
def momentOf? (cs : List Char) : Option MomentText := do
  let (year, rest) ← takeDigits 4 4 cs
  let (month, rest) ← takeDigits 1 2 (← takeChar '-' rest)
  let (day, rest) ← takeDigits 1 2 (← takeChar '-' rest)
  if rest.isEmpty then return { year, month, day }
  let rest ← match rest with
    | 'T' :: rest => some rest
    | 't' :: rest => some rest
    | c :: rest =>
      if c == ' ' || c == '\t' then some (rest.dropWhile fun c => c == ' ' || c == '\t') else none
    | [] => none
  let (hour, rest) ← takeDigits 1 2 rest
  let (minute, rest) ← takeDigits 2 2 (← takeChar ':' rest)
  let (second, rest) ← takeDigits 2 2 (← takeChar ':' rest)
  let rest := match rest with
    | '.' :: rest => rest.dropWhile Char.isDigit
    | rest => rest
  let zone ← zoneOf? rest
  return { year, month, day, hour, minute, second, zone }

/-- The text is a date with two digits for month and day, or any date and time. -/
def isMoment (cs : List Char) : Bool :=
  (momentOf? cs).any fun m => !m.hour.isEmpty || (m.month.length = 2 && m.day.length = 2)

/-- Text without the line break at its end, if there is one. -/
def withoutBreak (cs : List Char) : List Char :=
  if cs.getLast? == some '\n' then cs.dropLast else cs

/-- Indicators that are text of no kind when they stand alone. -/
def loneIndicators : List String := ["!", "&", "*"]

/-- The kind that the text of a plain scalar looks like. A line break at its end does not count,
unless it is all of the text. -/
def ofPlain? (s : String) : Option Kind :=
  let cs := withoutBreak s.toList
  let word := String.ofList cs
  if truthWords.contains word then some truth
  else if isReal cs then some real
  else if isInteger cs then some integer
  else if word == "<<" then some merge
  else if s.isEmpty || nullWords.contains word then some null
  else if isMoment cs then some moment
  else if word == "=" then some default
  else if loneIndicators.contains word then none
  else some text

end Kind

end PeFacts.Yaml
