import Imageboard.Markup.Reader
import Imageboard.Markup.Tree

/-!
Styled spans: a stretch of a line between two equal delimiters, in which a backslash makes the next
character literal. A span ends at the first delimiter after its opening and is never empty.
-/
namespace Imageboard.Markup

/-- The delimiter of a style. -/
def Style.delimiter : Style → List Char
  | .strong => ['*', '*']
  | .emphasis => ['*']
  | .spoiler => ['~']
  | .code => ['\x60']

/-- The content up to the next delimiter, unescaped, and what follows that delimiter. -/
def readToDelimiter (delimiter : List Char) : Reader (List Char)
  | [] => (dropMarker? delimiter []).map ([], ·)
  | c :: s =>
    match dropMarker? delimiter (c :: s) with
    | some rest => some ([], rest)
    | none =>
      if c = '\n' then none
      else if c = '\\' then
        match s with
        | [] => none
        | escaped :: s =>
          if escaped = '\n' then none
          else (readToDelimiter delimiter s).map fun (content, rest) => (escaped :: content, rest)
      else (readToDelimiter delimiter s).map fun (content, rest) => (c :: content, rest)

/-- The content of a span that is opened and closed by the delimiter. -/
def readDelimited (delimiter : List Char) : Reader (List Char) := fun s => do
  let opened ← dropMarker? delimiter s
  let (content, rest) ← readToDelimiter delimiter opened
  if content = [] then none else some (content, rest)

theorem length_readToDelimiter_le {delimiter s content rest : List Char}
    (h : readToDelimiter delimiter s = some (content, rest)) : rest.length ≤ s.length := by
  fun_induction readToDelimiter delimiter s generalizing content rest with
  | case1 =>
    obtain ⟨r, hr, he⟩ := Option.map_eq_some_iff.1 h
    have := length_of_dropMarker? hr
    grind
  | case2 c s r hr =>
    have := length_of_dropMarker? hr
    grind
  | case3 => simp at h
  | case4 => simp at h
  | case5 => simp at h
  | case6 _ _ _ _ _ ih =>
    obtain ⟨a, ha, -⟩ := exists_of_map_value h
    grind
  | case7 _ _ _ _ _ ih =>
    obtain ⟨a, ha, -⟩ := exists_of_map_value h
    grind

theorem readDelimited_progresses {delimiter : List Char} (h : delimiter ≠ []) :
    (readDelimited delimiter).Progresses := by
  intro s content rest hs
  obtain ⟨opened, ho, hs⟩ := Option.bind_eq_some_iff.1 hs
  obtain ⟨⟨content', rest'⟩, hc, hs⟩ := Option.bind_eq_some_iff.1 hs
  have h1 := length_of_dropMarker? ho
  have h2 := length_readToDelimiter_le hc
  have h3 : 0 < delimiter.length := List.length_pos_iff.2 h
  grind

theorem Style.delimiter_ne_nil (style : Style) : style.delimiter ≠ [] := by
  cases style <;> simp [Style.delimiter]

end Imageboard.Markup
