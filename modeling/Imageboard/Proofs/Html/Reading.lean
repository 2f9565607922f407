import Imageboard.Html.Token
import Imageboard.Markup.Reader
import Imageboard.Proofs.Markup.Run

/-!
HTML read from left to right, as tags and the texts between them. A fragment whose texts and values
have been escaped is read back as the tags that were written: whatever stands in it, no text opens a
tag and no value ends one.
-/
namespace Imageboard.Html
open Markup (Reader dropMarker? length_of_dropMarker? stopsRun_cons takeWhile_append_of_stopsRun
  dropWhile_append_of_stopsRun)

/-! ## Entities -/

/-- A text with its entities replaced by what they stand for, from left to right. -/
def unescape : List Char → List Char
  | '&' :: 'a' :: 'm' :: 'p' :: ';' :: s => '&' :: unescape s
  | '&' :: 'l' :: 't' :: ';' :: s => '<' :: unescape s
  | '&' :: 'g' :: 't' :: ';' :: s => '>' :: unescape s
  | '&' :: 'q' :: 'u' :: 'o' :: 't' :: ';' :: s => '"' :: unescape s
  | c :: s => c :: unescape s
  | [] => []

theorem unescape_cons {c : Char} (h : c ≠ '&') (s : List Char) :
    unescape (c :: s) = c :: unescape s := by
  rw [unescape.eq_def]
  split
  · exact absurd (List.cons.inj ‹_›).1 h
  · exact absurd (List.cons.inj ‹_›).1 h
  · exact absurd (List.cons.inj ‹_›).1 h
  · exact absurd (List.cons.inj ‹_›).1 h
  · rename_i heq
    obtain ⟨rfl, rfl⟩ := List.cons.inj heq
    rfl
  · cases ‹_›

theorem escape_cons (c : Char) (s : List Char) : escape (c :: s) = escapeChar c ++ escape s := rfl

theorem escape_append (s t : List Char) : escape (s ++ t) = escape s ++ escape t :=
  List.flatMap_append

/-- What an escaped character is: one of the four entities, or a character that needs none. -/
theorem escapeChar_cases (c : Char) :
    (c = '&' ∧ escapeChar c = ['&', 'a', 'm', 'p', ';']) ∨
      (c = '<' ∧ escapeChar c = ['&', 'l', 't', ';']) ∨
      (c = '>' ∧ escapeChar c = ['&', 'g', 't', ';']) ∨
      (c = '"' ∧ escapeChar c = ['&', 'q', 'u', 'o', 't', ';']) ∨
      (c ≠ '&' ∧ c ≠ '<' ∧ c ≠ '>' ∧ c ≠ '"' ∧ escapeChar c = [c]) := by
  unfold escapeChar
  split
  · exact .inl ⟨‹_›, rfl⟩
  · split
    · exact .inr (.inl ⟨‹_›, rfl⟩)
    · split
      · exact .inr (.inr (.inl ⟨‹_›, rfl⟩))
      · split
        · exact .inr (.inr (.inr (.inl ⟨‹_›, rfl⟩)))
        · exact .inr (.inr (.inr (.inr ⟨‹_›, ‹_›, ‹_›, ‹_›, rfl⟩)))

/-- Escaping is undone, also for texts that look like entities. -/
theorem unescape_escape (s : List Char) : unescape (escape s) = s := by
  induction s with
  | nil => rfl
  | cons c s ih =>
      rw [escape_cons]
      rcases escapeChar_cases c with ⟨rfl, h⟩ | ⟨rfl, h⟩ | ⟨rfl, h⟩ | ⟨rfl, h⟩ | ⟨hc, -, -, -, h⟩
      · rw [h]; exact congrArg (List.cons '&') ih
      · rw [h]; exact congrArg (List.cons '<') ih
      · rw [h]; exact congrArg (List.cons '>') ih
      · rw [h]; exact congrArg (List.cons '"') ih
      · rw [h, List.singleton_append, unescape_cons hc, ih]

/-- A text that neither opens a tag nor ends a tag or a value. -/
def Inert (s : List Char) : Prop := ∀ c ∈ s, c ≠ '<' ∧ c ≠ '>' ∧ c ≠ '"'

theorem inert_of_all {s : List Char} (h : s.all fun c => c != '<' && c != '>' && c != '"') :
    Inert s := by
  intro c hc
  have hsigns := List.all_eq_true.1 h c hc
  rw [Bool.and_eq_true, Bool.and_eq_true, bne_iff_ne, bne_iff_ne, bne_iff_ne] at hsigns
  exact ⟨hsigns.1.1, hsigns.1.2, hsigns.2⟩

theorem inert_escapeChar (c : Char) : Inert (escapeChar c) := by
  rcases escapeChar_cases c with ⟨-, h⟩ | ⟨-, h⟩ | ⟨-, h⟩ | ⟨-, h⟩ | ⟨-, hl, hg, hq, h⟩
  · exact h ▸ inert_of_all rfl
  · exact h ▸ inert_of_all rfl
  · exact h ▸ inert_of_all rfl
  · exact h ▸ inert_of_all rfl
  · rw [h]
    exact List.forall_mem_singleton.2 ⟨hl, hg, hq⟩

theorem inert_escape (s : List Char) : Inert (escape s) := by
  intro d hd
  obtain ⟨c, -, hd⟩ := List.mem_flatMap.1 hd
  exact inert_escapeChar c d hd

/-- A text with every occurrence of a character replaced. -/
def replaceChar (c : Char) (entity : List Char) (s : List Char) : List Char :=
  s.flatMap fun d => if d = c then entity else [d]

theorem replaceChar_append (c : Char) (entity s t : List Char) :
    replaceChar c entity (s ++ t) = replaceChar c entity s ++ replaceChar c entity t :=
  List.flatMap_append

theorem replaceChar_other {c d : Char} (h : d ≠ c) (entity : List Char) :
    replaceChar c entity [d] = [d] := by
  rw [replaceChar, List.flatMap_singleton, if_neg h]

/-- Escaping is to replace ampersands, then angle brackets, then quotes. Were ampersands replaced
later, the entities that stand already would be escaped once more. -/
theorem escape_eq_replaceChar (s : List Char) :
    escape s = replaceChar '"' "&quot;".toList (replaceChar '>' "&gt;".toList
      (replaceChar '<' "&lt;".toList (replaceChar '&' "&amp;".toList s))) := by
  induction s with
  | nil => rfl
  | cons c s ih =>
      rw [escape_cons, ih, ← List.singleton_append (l := s)]
      simp only [replaceChar_append]
      rw [List.append_left_inj]
      rcases escapeChar_cases c with ⟨rfl, h⟩ | ⟨rfl, h⟩ | ⟨rfl, h⟩ | ⟨rfl, h⟩ | ⟨ha, hl, hg, hq, h⟩
      · rw [h]; rfl
      · rw [h]; rfl
      · rw [h]; rfl
      · rw [h]; rfl
      · rw [h, replaceChar_other ha, replaceChar_other hl, replaceChar_other hg,
          replaceChar_other hq]

/-! ## Tags and texts -/

/-- A tag of a fragment. -/
inductive Tag where
  | opening (name : String) (attributes : List Attribute)
  | closing (name : String)
deriving DecidableEq, Repr

/-- A fragment as tags and texts: the text in front of the first tag, and each tag with the text
behind it. -/
structure Fragment where
  leading : List Char
  tagged : List (Tag × List Char)
deriving DecidableEq, Repr

/-- An attribute with its value changed. -/
def Attribute.mapValue (f : List Char → List Char) (a : Attribute) : Attribute :=
  { a with value := f a.value }

namespace Tag

def attributes : Tag → List Attribute
  | .opening _ attributes => attributes
  | .closing _ => []

/-- A tag with its values changed. -/
def mapValues (f : List Char → List Char) : Tag → Tag
  | .opening name attributes => .opening name (attributes.map (·.mapValue f))
  | .closing name => .closing name

/-- A tag with its values blanked out. -/
def blank (tag : Tag) : Tag := tag.mapValues fun _ => []

end Tag

namespace Fragment

def tags (f : Fragment) : List Tag := f.tagged.map Prod.fst

/-- The texts in front of, between and behind the tags, one more than there are tags. -/
def texts (f : Fragment) : List (List Char) := f.leading :: f.tagged.map Prod.snd

def attributes (f : Fragment) : List Attribute := f.tags.flatMap Tag.attributes

/-- The fragment with a text put in front of it. -/
def withText (content : List Char) (f : Fragment) : Fragment := ⟨content ++ f.leading, f.tagged⟩

/-- The fragment with a tag put in front of it. -/
def withTag (tag : Tag) (f : Fragment) : Fragment := ⟨[], (tag, f.leading) :: f.tagged⟩

/-- A fragment with its texts and values changed. -/
def mapTexts (g : List Char → List Char) (f : Fragment) : Fragment :=
  ⟨g f.leading, f.tagged.map fun (tag, text) => (tag.mapValues g, g text)⟩

end Fragment

/-! ## The reader -/

/-- An attribute behind a blank: a name up to the equals sign and a value up to the next quote. -/
def readAttribute : Reader Attribute := fun s => do
  let named ← dropMarker? [' '] s
  let quoted ← dropMarker? ['=', '"'] (named.dropWhile (· != '='))
  let rest ← dropMarker? ['"'] (quoted.dropWhile (· != '"'))
  return (⟨String.ofList (named.takeWhile (· != '=')), quoted.takeWhile (· != '"')⟩, rest)

theorem readAttribute_progresses : readAttribute.Progresses := by
  intro s a rest h
  obtain ⟨named, hn, h⟩ := Option.bind_eq_some_iff.1 h
  obtain ⟨quoted, hq, h⟩ := Option.bind_eq_some_iff.1 h
  obtain ⟨after, ha, h⟩ := Option.bind_eq_some_iff.1 h
  obtain ⟨-, rfl⟩ := Prod.mk.inj (Option.some.inj h)
  have h1 := length_of_dropMarker? hn
  have h2 := length_of_dropMarker? hq
  have h3 := length_of_dropMarker? ha
  have h4 := (List.dropWhile_suffix (l := named) (· != '=')).length_le
  have h5 := (List.dropWhile_suffix (l := quoted) (· != '"')).length_le
  simp only [List.length_cons, List.length_nil] at h1 h2 h3
  omega

/-- The attributes of a tag, up to where none follows. -/
def readAttributes (s : List Char) : List Attribute × List Char :=
  match h : readAttribute s with
  | none => ([], s)
  | some (a, rest) =>
    have : rest.length < s.length := readAttribute_progresses s a rest h
    (a :: (readAttributes rest).1, (readAttributes rest).2)
termination_by s.length

theorem length_readAttributes_le (s : List Char) : (readAttributes s).2.length ≤ s.length := by
  fun_induction readAttributes s with
  | case1 => exact Nat.le_refl _
  | case2 s a rest h hlt ih => exact Nat.le_trans ih (Nat.le_of_lt hlt)

/-- Whether a character goes on with the name of a tag. -/
def isNameChar (c : Char) : Bool := c != ' ' && c != '>'

/-- A tag. Only an opening tag has attributes. -/
def readTag : Reader Tag := fun s =>
  match dropMarker? ['<', '/'] s with
  | some named => do
    let rest ← dropMarker? ['>'] (named.dropWhile isNameChar)
    return (.closing (String.ofList (named.takeWhile isNameChar)), rest)
  | none => do
    let named ← dropMarker? ['<'] s
    let (attributes, after) := readAttributes (named.dropWhile isNameChar)
    let rest ← dropMarker? ['>'] after
    return (.opening (String.ofList (named.takeWhile isNameChar)) attributes, rest)

theorem readTag_progresses : readTag.Progresses := by
  intro s tag rest h
  unfold readTag at h
  split at h
  · rename_i named hn
    obtain ⟨after, ha, h⟩ := Option.bind_eq_some_iff.1 h
    obtain ⟨-, rfl⟩ := Prod.mk.inj (Option.some.inj h)
    have h1 := length_of_dropMarker? hn
    have h2 := length_of_dropMarker? ha
    have h3 := (List.dropWhile_suffix (l := named) isNameChar).length_le
    simp only [List.length_cons, List.length_nil] at h1 h2
    omega
  · obtain ⟨named, hn, h⟩ := Option.bind_eq_some_iff.1 h
    obtain ⟨after, ha, h⟩ := Option.bind_eq_some_iff.1 h
    obtain ⟨-, rfl⟩ := Prod.mk.inj (Option.some.inj h)
    have h1 := length_of_dropMarker? hn
    have h2 := length_of_dropMarker? ha
    have h3 := (List.dropWhile_suffix (l := named) isNameChar).length_le
    have h4 := length_readAttributes_le (named.dropWhile isNameChar)
    simp only [List.length_cons, List.length_nil] at h1 h2
    omega

/-- A fragment, read from left to right. An angle bracket that opens no tag is refused. -/
def read (s : List Char) : Option Fragment :=
  match s with
  | [] => some ⟨[], []⟩
  | c :: s =>
    if c = '<' then
      match h : readTag (c :: s) with
      | none => none
      | some (tag, rest) =>
        have : rest.length < s.length + 1 := readTag_progresses (c :: s) tag rest h
        (read rest).map (.withTag tag)
    else (read s).map (.withText [c])
termination_by s.length

/-! ## What is written is read -/

/-- The characters of an attribute. -/
def Attribute.source (a : Attribute) : List Char :=
  ' ' :: a.name.toList ++ '=' :: '"' :: a.value ++ ['"']

/-- The characters of a tag. -/
def Tag.source : Tag → List Char
  | .opening name attributes => '<' :: name.toList ++ attributes.flatMap Attribute.source ++ ['>']
  | .closing name => '<' :: '/' :: name.toList ++ ['>']

/-- The characters of a fragment. -/
def Fragment.source (f : Fragment) : List Char :=
  f.leading ++ f.tagged.flatMap fun (tag, text) => tag.source ++ text

/-- A tag whose names are read back: none runs on into what follows it. -/
def Tag.Named : Tag → Prop
  | .opening name attributes => name.toList.all isNameChar ∧ name.toList.head? ≠ some '/' ∧
      ∀ a ∈ attributes, '=' ∉ a.name.toList
  | .closing name => name.toList.all isNameChar

instance : DecidablePred Tag.Named
  | .opening name attributes => inferInstanceAs (Decidable (name.toList.all isNameChar ∧
      name.toList.head? ≠ some '/' ∧ ∀ a ∈ attributes, '=' ∉ a.name.toList))
  | .closing name => inferInstanceAs (Decidable (name.toList.all isNameChar))

theorem takeWhile_append_stop {p : Char → Bool} {run : List Char} {c : Char}
    (hrun : ∀ d ∈ run, p d = true) (hc : p c = false) (s : List Char) :
    (run ++ c :: s).takeWhile p = run ∧ (run ++ c :: s).dropWhile p = c :: s :=
  ⟨takeWhile_append_of_stopsRun hrun (stopsRun_cons hc s),
    dropWhile_append_of_stopsRun hrun (stopsRun_cons hc s)⟩

theorem readAttribute_source {a : Attribute} (hname : '=' ∉ a.name.toList) (hvalue : Inert a.value)
    (s : List Char) : readAttribute (a.source ++ s) = some (a, s) := by
  have hnameRun : ∀ d ∈ a.name.toList, (d != '=') = true := by
    intro d hd
    exact bne_iff_ne.2 fun heq => hname (heq ▸ hd)
  have hvalueRun : ∀ d ∈ a.value, (d != '"') = true := by
    intro d hd
    exact bne_iff_ne.2 (hvalue d hd).2.2
  obtain ⟨hn, hnamed⟩ :=
    takeWhile_append_stop hnameRun (c := '=') rfl ('"' :: (a.value ++ '"' :: s))
  obtain ⟨hv, hquoted⟩ := takeWhile_append_stop hvalueRun (c := '"') rfl s
  simp [readAttribute, Attribute.source, dropMarker?, hn, hnamed, hv, hquoted]

theorem readAttributes_of_none {s : List Char} (h : readAttribute s = none) :
    readAttributes s = ([], s) := by
  rw [readAttributes]
  split
  · rfl
  · rename_i hs; rw [h] at hs; cases hs

theorem readAttributes_of_some {s rest : List Char} {a : Attribute}
    (h : readAttribute s = some (a, rest)) :
    readAttributes s = (a :: (readAttributes rest).1, (readAttributes rest).2) := by
  rw [readAttributes]
  split
  · rename_i hs; rw [h] at hs; cases hs
  · rename_i hs
    rw [h] at hs
    obtain ⟨rfl, rfl⟩ := Prod.mk.inj (Option.some.inj hs)
    rfl

theorem readAttributes_source {attributes : List Attribute}
    (h : ∀ a ∈ attributes, '=' ∉ a.name.toList ∧ Inert a.value) (s : List Char) :
    readAttributes (attributes.flatMap Attribute.source ++ '>' :: s) = (attributes, '>' :: s) := by
  induction attributes with
  | nil => exact readAttributes_of_none rfl
  | cons a attributes ih =>
      rw [List.forall_mem_cons] at h
      have hread := readAttribute_source h.1.1 h.1.2
        (attributes.flatMap Attribute.source ++ '>' :: s)
      rw [List.flatMap_cons, List.append_assoc, readAttributes_of_some hread, ih h.2]

/-- Attributes start with a blank, or the tag ends: either way its name is over. -/
theorem exists_stop_attributes (attributes : List Attribute) (s : List Char) : ∃ c t,
    isNameChar c = false ∧ attributes.flatMap Attribute.source ++ '>' :: s = c :: t := by
  cases attributes with
  | nil => exact ⟨'>', s, rfl, rfl⟩
  | cons a attributes => exact ⟨' ', _, rfl, rfl⟩

theorem readTag_source {tag : Tag} (hnames : tag.Named)
    (hvalues : ∀ a ∈ tag.attributes, Inert a.value) (s : List Char) :
    readTag (tag.source ++ s) = some (tag, s) := by
  cases tag with
  | closing name =>
      obtain ⟨htake, hdrop⟩ := takeWhile_append_stop (List.all_eq_true.1 hnames)
        (c := '>') rfl s
      simp [readTag, Tag.source, dropMarker?, htake, hdrop]
  | opening name attributes =>
      obtain ⟨hname, hslash, hattributes⟩ := hnames
      have hread := readAttributes_source (fun a ha => ⟨hattributes a ha, hvalues a ha⟩) s
      obtain ⟨c, t, hc, hstop⟩ := exists_stop_attributes attributes s
      obtain ⟨htake, hdrop⟩ := takeWhile_append_stop (List.all_eq_true.1 hname) hc t
      have hsource : (Tag.opening name attributes).source ++ s =
          '<' :: (name.toList ++ c :: t) := by
        rw [Tag.source, ← hstop]
        simp
      have hopens : dropMarker? ['<', '/'] ('<' :: (name.toList ++ c :: t)) = none := by
        cases hn : name.toList with
        | nil =>
            have hne : '/' ≠ c := by
              rintro rfl
              cases hc
            simp [dropMarker?, hne]
        | cons d rest =>
            rw [hn, List.head?_cons, ne_eq, Option.some.injEq] at hslash
            simp [dropMarker?, Ne.symm hslash]
      rw [hstop] at hread
      rw [hsource, readTag, hopens]
      simp [dropMarker?, htake, hdrop, hread]

theorem read_withText {content : List Char} (h : '<' ∉ content) (s : List Char) :
    read (content ++ s) = (read s).map (.withText content) := by
  induction content with
  | nil => rw [List.nil_append]; cases read s <;> rfl
  | cons c content ih =>
      rw [List.mem_cons, not_or] at h
      rw [List.cons_append, read.eq_def]
      simp only [Ne.symm h.1, if_false, ih h.2, Option.map_map]
      rfl

theorem read_withTag {tag : Tag} (hnames : tag.Named)
    (hvalues : ∀ a ∈ tag.attributes, Inert a.value) (s : List Char) :
    read (tag.source ++ s) = (read s).map (.withTag tag) := by
  have htag := readTag_source hnames hvalues s
  have hopen : ∃ t, tag.source ++ s = '<' :: t := by
    cases tag with
    | opening name attributes => exact ⟨_, rfl⟩
    | closing name => exact ⟨_, rfl⟩
  obtain ⟨t, ht⟩ := hopen
  rw [ht] at htag ⊢
  rw [read.eq_def]
  simp only [if_true]
  split
  · rename_i hs; rw [htag] at hs; cases hs
  · rename_i hs
    rw [htag] at hs
    obtain ⟨rfl, rfl⟩ := Prod.mk.inj (Option.some.inj hs)
    rfl

/-! ## Escaped fragments -/

namespace Tag

theorem attributes_mapValues (g : List Char → List Char) (tag : Tag) :
    (tag.mapValues g).attributes = tag.attributes.map (·.mapValue g) := by
  cases tag <;> rfl

theorem mapValues_mapValues (g h : List Char → List Char) (tag : Tag) :
    (tag.mapValues g).mapValues h = tag.mapValues (h ∘ g) := by
  cases tag with
  | opening name attributes => simp [mapValues, Attribute.mapValue]
  | closing name => rfl

theorem mapValues_id (tag : Tag) : tag.mapValues id = tag := by
  cases tag with
  | opening name attributes => simp [mapValues, Attribute.mapValue]
  | closing name => rfl

/-- Whether a tag is read back does not depend on its values. -/
theorem named_mapValues_iff (g : List Char → List Char) (tag : Tag) :
    (tag.mapValues g).Named ↔ tag.Named := by
  cases tag with
  | opening name attributes =>
      simp only [mapValues, Named, List.forall_mem_map, Attribute.mapValue]
  | closing name => exact Iff.rfl

end Tag

namespace Fragment

theorem tags_mapTexts (g : List Char → List Char) (f : Fragment) :
    (f.mapTexts g).tags = f.tags.map (·.mapValues g) := by
  simp [mapTexts, tags]

theorem texts_mapTexts (g : List Char → List Char) (f : Fragment) :
    (f.mapTexts g).texts = f.texts.map g := by
  simp [mapTexts, texts]

theorem attributes_mapTexts (g : List Char → List Char) (f : Fragment) :
    (f.mapTexts g).attributes = f.attributes.map (·.mapValue g) := by
  simp only [attributes, tags_mapTexts, List.flatMap_map, List.map_flatMap,
    Tag.attributes_mapValues]

theorem unescape_mapTexts_escape (f : Fragment) :
    (f.mapTexts escape).mapTexts unescape = f := by
  have hid : unescape ∘ escape = id := funext unescape_escape
  simp [mapTexts, Tag.mapValues_mapValues, hid, Tag.mapValues_id, unescape_escape,
    Function.comp_def]

theorem source_cons (leading text : List Char) (tag : Tag) (tagged : List (Tag × List Char)) :
    source ⟨leading, (tag, text) :: tagged⟩ = leading ++ (tag.source ++ source ⟨text, tagged⟩) := by
  simp [source]

end Fragment

/-- An escaped fragment is read as it stands. -/
theorem read_escaped {f : Fragment} (hnames : ∀ tag ∈ f.tags, tag.Named) :
    read (f.mapTexts escape).source = some (f.mapTexts escape) := by
  obtain ⟨leading, tagged⟩ := f
  have hinert : ∀ text, '<' ∉ escape text := fun text h => (inert_escape text '<' h).1 rfl
  induction tagged generalizing leading with
  | nil =>
      have hread := read_withText (hinert leading) []
      rw [read] at hread
      simpa [Fragment.mapTexts, Fragment.source, Fragment.withText] using hread
  | cons first tagged ih =>
      obtain ⟨tag, text⟩ := first
      simp only [Fragment.tags, List.map_cons, List.forall_mem_cons] at hnames
      have hvalues : ∀ a ∈ (tag.mapValues escape).attributes, Inert a.value := by
        rw [Tag.attributes_mapValues]
        exact List.forall_mem_map.2 fun a _ => inert_escape a.value
      have hrest := ih text hnames.2
      simp only [Fragment.mapTexts, List.map_cons] at hrest ⊢
      rw [Fragment.source_cons, read_withText (hinert leading),
        read_withTag ((Tag.named_mapValues_iff escape tag).2 hnames.1) hvalues, hrest]
      simp [Fragment.withTag, Fragment.withText]

/-! ## Tokens -/

/-- The fragment with a token put in front of it. -/
def Token.before (f : Fragment) : Token → Fragment
  | .opening name attributes => f.withTag (.opening name attributes)
  | .closing name => f.withTag (.closing name)
  | .text content => f.withText content

/-- The fragment with tokens put in front of it. Texts that stand next to each other are one. -/
def Fragment.prepend (tokens : List Token) (f : Fragment) : Fragment :=
  tokens.foldr (fun token f => token.before f) f

theorem Token.write_append_source (token : Token) (f : Fragment) :
    token.write ++ (f.mapTexts escape).source = ((token.before f).mapTexts escape).source := by
  cases token with
  | opening name attributes =>
      have hattributes : attributes.flatMap Attribute.write =
          (attributes.map (·.mapValue escape)).flatMap Attribute.source := by
        rw [List.flatMap_map]
        rfl
      simp [Token.write, Token.before, Fragment.withTag, Fragment.mapTexts, Fragment.source,
        Tag.mapValues, Tag.source, hattributes, escape]
  | closing name =>
      simp [Token.write, Token.before, Fragment.withTag, Fragment.mapTexts, Fragment.source,
        Tag.mapValues, Tag.source, escape]
  | text content =>
      simp [Token.write, Token.before, Fragment.withText, Fragment.mapTexts, Fragment.source,
        escape_append]

/-- The tag that a token is, unless it is a text. -/
def Token.tag? : Token → Option Tag
  | .opening name attributes => some (.opening name attributes)
  | .closing name => some (.closing name)
  | .text _ => none

namespace Fragment

theorem prepend_append (tokens others : List Token) (f : Fragment) :
    prepend (tokens ++ others) f = prepend tokens (prepend others f) :=
  List.foldr_append

/-- Texts with one more put in front, which runs into the first of them. -/
def joinText (content : List Char) : List (List Char) → List (List Char)
  | [] => [content]
  | text :: texts => (content ++ text) :: texts

@[simp] theorem prepend_nil (f : Fragment) : prepend [] f = f := rfl

@[simp] theorem texts_prepend_opening (name : String) (attributes : List Attribute)
    (tokens : List Token) (f : Fragment) :
    (prepend (.opening name attributes :: tokens) f).texts = [] :: (prepend tokens f).texts := rfl

@[simp] theorem texts_prepend_closing (name : String) (tokens : List Token) (f : Fragment) :
    (prepend (.closing name :: tokens) f).texts = [] :: (prepend tokens f).texts := rfl

@[simp] theorem texts_prepend_text (content : List Char) (tokens : List Token) (f : Fragment) :
    (prepend (.text content :: tokens) f).texts = joinText content (prepend tokens f).texts := rfl

/-- Tags around a text open the fragment and end where the rest of it starts. -/
theorem prepend_pair (name closed : String) (attributes : List Attribute) (content : List Char)
    (f : Fragment) :
    prepend [.opening name attributes, .text content, .closing closed] f =
      ⟨[], (.opening name attributes, content) :: (.closing closed, f.leading) :: f.tagged⟩ := by
  simp [prepend, Token.before, withTag, withText]

theorem tags_prepend (tokens : List Token) (f : Fragment) :
    (prepend tokens f).tags = tokens.filterMap Token.tag? ++ f.tags := by
  induction tokens with
  | nil => rfl
  | cons token tokens ih =>
      cases token with
      | opening name attributes => exact congrArg (List.cons _) ih
      | closing name => exact congrArg (List.cons _) ih
      | text content => exact ih

end Fragment

/-- What is written is the fragment of its tokens, escaped. -/
theorem write_eq_source (tokens : List Token) :
    write tokens = ((Fragment.prepend tokens ⟨[], []⟩).mapTexts escape).source := by
  induction tokens with
  | nil => rfl
  | cons token tokens ih => rw [write_cons, ih, Token.write_append_source]; rfl

end Imageboard.Html
