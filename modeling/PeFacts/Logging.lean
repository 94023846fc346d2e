/-!
# Logging

The log level is set by a number or by a name in any case; an unknown name stands for the level of
warnings. `Logger.configure` sets the level and attaches the one handler of the program.
-/

namespace PeFacts

/-- How a log level is given. -/
inductive LogLevel
  | number (n : Int)
  | name (s : String)
  deriving Repr, DecidableEq

namespace LogLevel

/-- The level from which on warnings are written. -/
def warning : Int := 30

/-- The levels that have names. -/
def named : List (String × Int) := [
  ("CRITICAL", 50), ("FATAL", 50), ("ERROR", 40), ("WARNING", warning), ("WARN", warning),
  ("INFO", 20), ("DEBUG", 10), ("NOTSET", 0)]

/-- A character in upper case. Of the characters outside ASCII those matter whose upper case is
ASCII. -/
def upperChar (c : Char) : List Char :=
  match c.toNat with
  | 0x00DF => ['S', 'S']
  | 0x0131 => ['I']
  | 0x017F => ['S']
  | 0xFB00 => ['F', 'F']
  | 0xFB01 => ['F', 'I']
  | 0xFB02 => ['F', 'L']
  | 0xFB03 => ['F', 'F', 'I']
  | 0xFB04 => ['F', 'F', 'L']
  | 0xFB05 => ['S', 'T']
  | 0xFB06 => ['S', 'T']
  | _ => [c.toUpper]

/-- The number of a level. -/
def value : LogLevel → Int
  | number n => n
  | name s =>
    let word := String.ofList (s.toList.flatMap upperChar)
    ((named.find? (·.1 == word)).map (·.2)).getD warning

end LogLevel

/-- The logger of the program. -/
structure Logger where
  name : String := "peprobe"
  level : Int := 0
  handlers : Nat := 0
  /-- Messages are passed on to the loggers above. -/
  propagates : Bool := true
  deriving Repr, DecidableEq

/-- The logger at a level; it has a handler of its own and passes nothing on. -/
def Logger.configure (l : Logger) (level : LogLevel) : Logger :=
  { l with level := level.value, handlers := max 1 l.handlers, propagates := false }

end PeFacts
