import Templating.Token.Scan

/-!
# Token reports

The tokens of a template as compact JSON, for tools. A report is complete when the scan reached the
end of the template.
-/

namespace Templating

namespace Report

/-- One character inside a JSON string. Only what JSON forbids is escaped. -/
def jsonChar (c : Char) : List Char :=
  if c = '"' ∨ c = '\\' then ['\\', c]
  else if c = '\n' then ['\\', 'n']
  else if c = '\r' then ['\\', 'r']
  else if c = '\t' then ['\\', 't']
  else if c.toNat = 0x08 then ['\\', 'b']
  else if c.toNat = 0x0C then ['\\', 'f']
  else if c.toNat < 0x20 then '\\' :: 'u' :: Text.hex 4 c.toNat
  else [c]

/-- A JSON string. -/
def jsonString (s : String) : String :=
  String.ofList ('"' :: s.toList.flatMap jsonChar ++ ['"'])

end Report

/-- The tokens of a scan, and whether it was complete. -/
structure Report where
  tokens : List Token
  complete : Bool
deriving DecidableEq, Repr

namespace Report

/-- Reports on tokens: they are complete if the last one is the end. -/
def ofTokens (tokens : List Token) : Report where
  tokens := tokens
  complete := (tokens.getLast?.map (·.kind)) == some .eof

/-- The JSON object of one token. -/
def tokenJson (t : Token) : String :=
  "\x7b\"kind\":" ++ jsonString t.kind.name ++ ",\"text\":" ++ jsonString t.text ++
    ",\"line\":" ++ toString t.start.line ++ ",\"column\":" ++ toString t.start.column ++ "\x7d"

/-- The report as JSON without any blanks between its parts. -/
def toJson (r : Report) : String :=
  "\x7b\"tokens\":[" ++ ",".intercalate (r.tokens.map tokenJson) ++ "],\"complete\":" ++
    (if r.complete then "true" else "false") ++ "\x7d"

end Report

end Templating
