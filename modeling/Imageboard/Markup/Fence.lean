import Imageboard.Markup.Reader
import Imageboard.Markup.Tree
import Imageboard.Text.Alphanumeric
import Imageboard.Text.Blank

/-!
Fenced code: verbatim lines between two fence lines, the first of which may name a language.
-/
namespace Imageboard.Markup

/-- The marks that open a fence line. -/
def fence : List Char := ['\x60', '\x60', '\x60']

/-- A line that consists of the fence alone. -/
def fenceLine : List Char := fence ++ ['\n']

/-- Verbatim lines, at least one, and what follows the fence line that closes them. -/
def readVerbatim : Reader (List Char)
  | [] => none
  | c :: s =>
    match if c = '\n' then dropMarker? fenceLine s else none with
    | some rest => some ([c], rest)
    | none => (readVerbatim s).map fun (contents, rest) => (c :: contents, rest)

/-- A block of code. An alphanumeric word after the opening fence names its language. -/
def readFence : Reader Block := fun s => do
  let opened ← dropMarker? fence s
  let named := opened.dropWhile Text.isInlineBlank
  let language := named.takeWhile Text.isAlphanumeric
  let body ← dropMarker? ['\n'] (named.dropWhile Text.isAlphanumeric)
  if opensWith fenceLine body then none
  else
    let (contents, rest) ← readVerbatim body
    return (.code contents (if language = [] then none else some language), rest)

theorem readVerbatim_progresses : readVerbatim.Progresses := by
  intro s contents rest hs
  fun_induction readVerbatim s generalizing contents rest with
  | case1 => simp at hs
  | case2 c s r hr =>
    split at hr
    · have := length_of_dropMarker? hr
      grind
    · simp at hr
  | case3 c s _ ih =>
    obtain ⟨a, ha, -⟩ := exists_of_map_value hs
    have := ih _ _ ha
    grind

theorem readFence_progresses : readFence.Progresses := by
  intro s block rest hs
  obtain ⟨opened, ho, hs⟩ := Option.bind_eq_some_iff.1 hs
  obtain ⟨body, hb, hs⟩ := Option.bind_eq_some_iff.1 hs
  split at hs
  · simp at hs
  · obtain ⟨⟨contents, after⟩, hc, he⟩ := Option.bind_eq_some_iff.1 hs
    have h1 := length_of_dropMarker? ho
    have h2 := length_of_dropMarker? hb
    have h3 := readVerbatim_progresses _ _ _ hc
    have h4 := (List.dropWhile_suffix (l := opened) Text.isInlineBlank).length_le
    have h5 := (List.dropWhile_suffix (l := opened.dropWhile Text.isInlineBlank)
      Text.isAlphanumeric).length_le
    obtain ⟨-, rfl⟩ := Prod.mk.inj (Option.some.inj he)
    simp only [fence, List.length_cons, List.length_nil] at h1
    omega

end Imageboard.Markup
