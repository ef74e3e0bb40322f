/-! Capital letters. Names are compared after their letters are made capital, and every name
they are compared with is plain ASCII; so only letters whose capitals are ASCII matter, and
all others are left alone. -/
namespace GeoRaster.Text

/-- The capitals of a letter, where they are ASCII; a ligature has several. -/
def capitals (c : Char) : List Char :=
  match c with
  | 'ß' => ['S', 'S']
  | 'ı' => ['I']
  | 'ſ' => ['S']
  | 'ﬀ' => ['F', 'F']
  | 'ﬁ' => ['F', 'I']
  | 'ﬂ' => ['F', 'L']
  | 'ﬃ' => ['F', 'F', 'I']
  | 'ﬄ' => ['F', 'F', 'L']
  | 'ﬅ' => ['S', 'T']
  | 'ﬆ' => ['S', 'T']
  | _ => [c.toUpper]

def capitalize (s : List Char) : List Char :=
  s.flatMap capitals

end GeoRaster.Text
