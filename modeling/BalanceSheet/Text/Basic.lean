/-!
Characters and texts: which characters are blank, how letter case is set aside, and how texts are searched, cut
and replaced, over lists of characters.
-/

namespace BalanceSheet.Text

/-! ### Blanks

Blank characters are those with the Unicode property White_Space. Trimming takes the blank characters
off both ends of a text and leaves the inside alone, so a trimmed text neither starts nor ends blank.
-/

/-- The Unicode property White_Space. -/
def isBlank (c : Char) : Bool :=
  ('\t' ≤ c && c ≤ '\r') || c == ' ' || c == '\u0085' || c == '\u00a0' || c == '\u1680' ||
    ('\u2000' ≤ c && c ≤ '\u200a') || c == '\u2028' || c == '\u2029' || c == '\u202f' ||
    c == '\u205f' || c == '\u3000'

def trimStart (cs : List Char) : List Char := cs.dropWhile isBlank

def trimEnd (cs : List Char) : List Char := (cs.reverse.dropWhile isBlank).reverse

/-- The text without the blank characters at its two ends. -/
def trim (s : String) : String := String.ofList (trimEnd (trimStart s.toList))

/-- Whether a text has no character but blank ones. -/
def isBlankText (s : String) : Bool := s.toList.all isBlank

/-! ### Letter case

Keywords are compared without regard to letter case. A keyword is made of ASCII characters, so of the
full Unicode case maps only those characters matter whose folded form has an ASCII letter: below them
stands every such character, and all others are left as they are.
-/

/-- Lower case, as far as it yields ASCII: the Kelvin sign is the only foreign character with an ASCII
lower-case form of its own. -/
def lowerChar (c : Char) : Char := if c == '\u212a' then 'k' else c.toLower

def lower (s : String) : String := String.ofList (s.toList.map lowerChar)

/-- Lower case of the letters A to Z alone. -/
def lowerAscii (s : String) : String := String.ofList (s.toList.map Char.toLower)

/-- Upper case, as far as it yields ASCII: dotless i, long s and the letters that unfold to several. -/
def upperChar (c : Char) : List Char :=
  if c == 'ı' then ['I']
  else if c == 'ſ' then ['S']
  else if c == 'ß' then ['S', 'S']
  else if c == 'ŉ' then ['ʼ', 'N']
  else if c == 'ǰ' then ['J', '\u030c']
  else if c == 'ẖ' then ['H', '\u0331']
  else if c == 'ẗ' then ['T', '\u0308']
  else if c == 'ẘ' then ['W', '\u030a']
  else if c == 'ẙ' then ['Y', '\u030a']
  else if c == 'ẚ' then ['A', 'ʾ']
  else if c == 'ﬀ' then ['F', 'F']
  else if c == 'ﬁ' then ['F', 'I']
  else if c == 'ﬂ' then ['F', 'L']
  else if c == 'ﬃ' then ['F', 'F', 'I']
  else if c == 'ﬄ' then ['F', 'F', 'L']
  else if c == 'ﬅ' || c == 'ﬆ' then ['S', 'T']
  else [c.toUpper]

def upper (cs : List Char) : List Char := cs.flatMap upperChar

/-! ### Searching, cutting and replacing

A cut loses nothing but the separator: putting the parts together around it gives the text back.
-/

/-- The parts before and after the first `sep`, or nothing where there is none. -/
def cut (sep : Char) : List Char → Option (List Char × List Char)
  | [] => none
  | c :: cs => if c = sep then some ([], cs) else (cut sep cs).map fun (before, after) => (c :: before, after)

theorem eq_of_cut {sep : Char} {cs before after : List Char} (h : cut sep cs = some (before, after)) :
    cs = before ++ sep :: after ∧ sep ∉ before := by
  induction cs generalizing before with
  | nil => simp [cut] at h
  | cons c cs ih =>
      simp only [cut] at h
      split at h
      case isTrue hc => simp_all
      case isFalse hc =>
        obtain ⟨⟨front, back⟩, hcut, heq⟩ := Option.map_eq_some_iff.1 h
        obtain ⟨rfl, rfl⟩ := Prod.mk.inj heq
        obtain ⟨hcs, hfront⟩ := ih hcut
        exact ⟨by simp [hcs], by simp [Ne.symm hc, hfront]⟩

/-- Whether `part` stands somewhere in the text. -/
def contains (part : List Char) : List Char → Bool
  | [] => part.isEmpty
  | c :: cs => part.isPrefixOf (c :: cs) || contains part cs

def endsWith (ending text : List Char) : Bool := ending.reverse.isPrefixOf text.reverse

/-- The text without `ending`, if it ends so. -/
def dropEnding? (ending text : List Char) : Option (List Char) :=
  if endsWith ending text then some (text.take (text.length - ending.length)) else none

/-- The text without `start`, if it starts so. -/
def dropStart? (start text : List Char) : Option (List Char) :=
  if start.isPrefixOf text then some (text.drop start.length) else none

/-- Copies the text past its next `skip` characters, with every occurrence of `part` replaced, from the
left and without overlap. -/
def replaceFrom (part replacement : List Char) : Nat → List Char → List Char
  | _, [] => []
  | skip + 1, _ :: cs => replaceFrom part replacement skip cs
  | 0, c :: cs =>
    if part.isPrefixOf (c :: cs) then replacement ++ replaceFrom part replacement (part.length - 1) cs
    else c :: replaceFrom part replacement 0 cs

/-- The text with every occurrence of the non-empty `part` replaced. -/
def replace (part replacement text : String) : String :=
  String.ofList (replaceFrom part.toList replacement.toList 0 text.toList)

/-! ### Braces

A part in braces runs from an opening brace to the next closing brace, whatever is in between, and the search goes
on after it; a brace that is never closed opens nothing.
-/

/-- The braced parts, given the reversed inside of the part that is open, if one is. -/
def bracedFrom : Option (List Char) → List Char → List (List Char)
  | _, [] => []
  | none, c :: cs => bracedFrom (if c = '{' then some [] else none) cs
  | some inside, c :: cs =>
    if c = '}' then inside.reverse :: bracedFrom none cs else bracedFrom (some (c :: inside)) cs

def braced (cs : List Char) : List (List Char) := bracedFrom none cs

end BalanceSheet.Text
