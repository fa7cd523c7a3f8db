/-!
# Capital letters

The full Unicode capital form of a text, as far as a keyword can depend on it. Keywords are
written in ASCII, so only characters whose capital form is ASCII can take part in one.
-/

set_option autoImplicit false

namespace MeterSync

/-- The characters outside ASCII whose full capital form lies in ASCII, each with that form. -/
def asciiCapitals : List (Char × List Char) :=
  [('ß', ['S', 'S']), ('ı', ['I']), ('ſ', ['S']), ('ﬀ', ['F', 'F']), ('ﬁ', ['F', 'I']),
    ('ﬂ', ['F', 'L']), ('ﬃ', ['F', 'F', 'I']), ('ﬄ', ['F', 'F', 'L']), ('ﬅ', ['S', 'T']),
    ('ﬆ', ['S', 'T'])]

/-- The capital form of one character. A character whose capital form leaves ASCII stands for
itself: neither form occurs in a keyword. -/
def capital (c : Char) : List Char :=
  match asciiCapitals.lookup c with
  | some form => form
  | none => [c.toUpper]

/-- A text with every character in its capital form. -/
def capitals (text : String) : String :=
  String.ofList (text.toList.flatMap capital)

end MeterSync
