import Mathlib.Data.List.Basic

/-!
# The plain-text body

`Engine.Render` executes the HTML template of a notification type and derives the plain
text from the HTML with `stripHTML` (the engine file of the template package):

1. the regular expression `<[^>]*>` removes every tag;
2. six `strings.ReplaceAll` calls, one after another, decode `&amp;`, `&lt;`, `&gt;`,
   `&quot;`, `&#39;` and `&nbsp;`;
3. the regular expression `\s+` turns each run of white space into one space;
4. `strings.TrimSpace` drops the white space at both ends.

The functions work on the characters of the text.  Each is structurally recursive, so
that `decide` runs them.

The HTML body escapes the data it shows.  The spec says that the plain text is the HTML
with its tags stripped and its entities decoded, so the text of escaped data should be
the data, with its white space collapsed (`esc` and `collapse` below, in the spec's
words).  `stripHTML_inverts_esc` proves this for every text without an ampersand.  The
decoding of `&amp;` comes first, and the `&` it produces can start an entity that a later
call decodes again: `stripHTML_decodes_twice` is the text `&lt;`.

The templates themselves, their registry and `html/template` are not modelled.
-/

namespace Notifly

/-! ## `stripHTML` -/

/-- `regexp.MustCompile("<[^>]*>").ReplaceAllString(s, "")`: a `<` with a `>` after it
starts a match that ends at the first `>`, matches do not overlap, and a `<` with no `>`
after it stays.  `inTag` says whether a match has started. -/
def stripTags (inTag : Bool) : List Char → List Char
  | [] => []
  | c :: cs =>
    if inTag then (if c = '>' then stripTags false cs else stripTags true cs)
    else if c = '<' ∧ '>' ∈ cs then stripTags true cs
    else c :: stripTags false cs

/-- `strings.ReplaceAll` for a non-empty `old`, from the point where `skip` characters of
the last occurrence are still to drop: every occurrence of `old` from the left, none
overlapping the one before, becomes `new`. -/
def replaceAllFrom (old new : List Char) : Nat → List Char → List Char
  | _, [] => []
  | skip + 1, _ :: cs => replaceAllFrom old new skip cs
  | 0, c :: cs =>
    if old.isPrefixOf (c :: cs) then new ++ replaceAllFrom old new (old.length - 1) cs
    else c :: replaceAllFrom old new 0 cs

/-- `strings.ReplaceAll(s, old, new)` for a non-empty `old`. -/
def replaceAll (s old new : List Char) : List Char := replaceAllFrom old new 0 s

/-- The entities that `stripHTML` decodes with their characters, in the order of its
`strings.ReplaceAll` calls.  Character 34 is the double quote and 39 the apostrophe. -/
def entities : List (List Char × List Char) :=
  [("&amp;".toList, ['&']), ("&lt;".toList, ['<']), ("&gt;".toList, ['>']),
    ("&quot;".toList, [Char.ofNat 34]), ("&#39;".toList, [Char.ofNat 39]),
    ("&nbsp;".toList, [' '])]

/-- The six `strings.ReplaceAll` calls of `stripHTML`, one after another. -/
def decodeEntities (s : List Char) : List Char :=
  entities.foldl (fun t e => replaceAll t e.1 e.2) s

/-- The class `\s` of Go's `regexp`: tab, newline, form feed, carriage return and space. -/
def isRegexpSpace (c : Char) : Bool :=
  c = '\t' || c = '\n' || c = Char.ofNat 12 || c = '\r' || c = ' '

/-- `regexp.MustCompile("\\s+").ReplaceAllString(s, " ")`: each maximal run of `\s`
characters becomes one space.  `inRun` says whether the character before was one. -/
def collapseSpaces (inRun : Bool) : List Char → List Char
  | [] => []
  | c :: cs =>
    if isRegexpSpace c then
      (if inRun then collapseSpaces true cs else ' ' :: collapseSpaces true cs)
    else c :: collapseSpaces false cs

/-- `unicode.IsSpace`: the characters of Unicode's `White_Space` property. -/
def isUnicodeSpace (c : Char) : Bool :=
  let n := c.toNat
  (9 ≤ n && n ≤ 13) || n = 32 || n = 0x85 || n = 0xA0 || n = 0x1680 ||
    (0x2000 ≤ n && n ≤ 0x200A) || n = 0x2028 || n = 0x2029 || n = 0x202F || n = 0x205F ||
    n = 0x3000

/-- `strings.TrimSpace`: the text without the white space at either end. -/
def trimSpace (s : List Char) : List Char :=
  ((s.dropWhile isUnicodeSpace).reverse.dropWhile isUnicodeSpace).reverse

/-- `stripHTML`: strip the tags, decode the entities, collapse the white space, trim. -/
def stripHTML (s : String) : String :=
  ⟨trimSpace (collapseSpaces false (decodeEntities (stripTags false s.toList)))⟩

/-! ## The spec's plain text of escaped data -/

/-- The escape of one character of data in the spec's words: `&`, `<`, `>`, the double
quote and the apostrophe become `&amp;`, `&lt;`, `&gt;`, `&quot;` and `&#39;`.  This is
the spec's escape, not `html/template`'s: the template also escapes `+`, as `&#43;`, and
writes the double quote as `&#34;`.  `stripHTML` decodes neither, so
`stripHTML_inverts_esc` is about the spec's words: in the plain text of an
`html/template` body, a `+` or a double quote of the data keeps its escape. -/
def escChar (c : Char) : List Char :=
  if c = '&' then "&amp;".toList
  else if c = '<' then "&lt;".toList
  else if c = '>' then "&gt;".toList
  else if c = Char.ofNat 34 then "&quot;".toList
  else if c = Char.ofNat 39 then "&#39;".toList
  else [c]

/-- The data as the HTML body shows it. -/
def esc (s : String) : String := ⟨s.toList.flatMap escChar⟩

/-- The plain text that the spec expects of data: each maximal run of `\s` characters
becomes one space, then `strings.TrimSpace`. -/
def collapse (s : String) : String := ⟨trimSpace (collapseSpaces false s.toList)⟩

/-- The data `&lt;` is escaped to `&amp;lt;`.  `stripHTML` decodes `&amp;` to `&`, and then
the `&lt;` that this produced to `<`. -/
theorem stripHTML_decodes_twice :
    stripHTML (esc "&lt;") = "<" ∧ collapse "&lt;" = "&lt;" := by
  decide

/-! ## One `strings.ReplaceAll` over chunks -/

section ReplaceAll

variable {old new : List Char}

/-- The rest of an occurrence is dropped. -/
theorem replaceAllFrom_skip (u rest : List Char) :
    replaceAllFrom old new u.length (u ++ rest) = replaceAllFrom old new 0 rest := by
  induction u with
  | nil => rfl
  | cons c u ih => exact ih

/-- A pattern that starts with `&` does not start at another character. -/
theorem replaceAllFrom_plain (hold : old.head? = some '&') {x : Char} (hx : x ≠ '&')
    (rest : List Char) :
    replaceAllFrom old new 0 (x :: rest) = x :: replaceAllFrom old new 0 rest := by
  obtain ⟨_ | ⟨a, o⟩, rfl⟩ : ∃ o, old = o := ⟨old, rfl⟩
  · cases hold
  · cases hold
    simp [replaceAllFrom, List.isPrefixOf, Ne.symm hx]

/-- A text with no `&` is passed over whole. -/
theorem replaceAllFrom_noAmp (hold : old.head? = some '&') :
    ∀ {v : List Char}, '&' ∉ v → ∀ rest,
      replaceAllFrom old new 0 (v ++ rest) = v ++ replaceAllFrom old new 0 rest
  | [], _, _ => rfl
  | x :: v, hv, rest => by
    rw [List.mem_cons, not_or] at hv
    rw [List.cons_append, replaceAllFrom_plain hold (Ne.symm hv.1), replaceAllFrom_noAmp hold hv.2]
    rfl

/-- Two texts neither of which is a prefix of the other: the first is a prefix of no
extension of the second. -/
theorem isPrefixOf_append_eq_false :
    ∀ {o u : List Char}, o.isPrefixOf u = false → u.isPrefixOf o = false → ∀ rest,
      o.isPrefixOf (u ++ rest) = false
  | [], _, h, _, _ => by simp at h
  | _ :: _, [], _, h, _ => by simp at h
  | a :: o, b :: u, h₁, h₂, rest => by
    by_cases hab : a = b
    · subst hab
      simp only [List.isPrefixOf, beq_self_eq_true, Bool.true_and] at h₁ h₂ ⊢
      exact isPrefixOf_append_eq_false h₁ h₂ rest
    · simp [List.isPrefixOf, hab]

/-- An entity chunk: `old` itself becomes `new`, any other entity that `old` does not
overlap is passed over whole. -/
theorem replaceAllFrom_entity (hold : old.head? = some '&') {u : List Char}
    (hu : u.head? = some '&') (hv : '&' ∉ u.tail)
    (hm : u = old ∨ old.isPrefixOf u = false ∧ u.isPrefixOf old = false) (rest : List Char) :
    replaceAllFrom old new 0 (u ++ rest) =
      (if u = old then new else u) ++ replaceAllFrom old new 0 rest := by
  obtain ⟨_ | ⟨a, v⟩, rfl⟩ : ∃ w, u = w := ⟨u, rfl⟩
  · cases hu
  · cases hu
    rcases hm with rfl | ⟨h₁, h₂⟩
    · have hp : ('&' :: v).isPrefixOf ('&' :: (v ++ rest)) = true :=
        List.isPrefixOf_iff_prefix.mpr (List.prefix_append ('&' :: v) rest)
      rw [List.cons_append, replaceAllFrom, if_pos hp, if_pos rfl]
      exact congrArg _ (replaceAllFrom_skip v rest)
    · have hne : '&' :: v ≠ old := by
        rintro rfl
        have := List.isPrefixOf_iff_prefix.mpr (List.prefix_refl ('&' :: v))
        rw [h₁] at this; cases this
      rw [if_neg hne, List.cons_append, replaceAllFrom, if_neg (by
        rw [← List.cons_append, isPrefixOf_append_eq_false h₁ h₂]; decide)]
      exact congrArg _ (replaceAllFrom_noAmp hold hv rest)

end ReplaceAll

/-! ## Texts without an ampersand -/

/-- The escapes that `esc` writes for `<`, `>`, the double quote and the apostrophe. -/
def escapedEntities : List (List Char) :=
  ["&lt;".toList, "&gt;".toList, "&quot;".toList, "&#39;".toList]

/-- A piece of a text on its way through the decoding: one character other than `&`, or
the escape of `<`, `>`, the double quote or the apostrophe. -/
def Chunk (u : List Char) : Prop := (u.length = 1 ∧ '&' ∉ u) ∨ u ∈ escapedEntities

instance : DecidablePred Chunk := fun u =>
  inferInstanceAs (Decidable ((u.length = 1 ∧ '&' ∉ u) ∨ u ∈ escapedEntities))

/-- Every pattern of `stripHTML` meets every escape chunk as `replaceAllFrom_entity`
needs, and leaves a chunk. -/
theorem escapedEntities_decode : ∀ e ∈ entities, ∀ u ∈ escapedEntities,
    e.1.head? = some '&' ∧ u.head? = some '&' ∧ '&' ∉ u.tail ∧
      (u = e.1 ∨ e.1.isPrefixOf u = false ∧ u.isPrefixOf e.1 = false) ∧
      Chunk (if u = e.1 then e.2 else u) := by
  decide

/-- Every pattern of `stripHTML` starts with `&` and is longer than one character. -/
theorem entities_pattern : ∀ e ∈ entities, e.1.head? = some '&' ∧ e.1.length ≠ 1 := by
  decide

/-- One call of `stripHTML` on a chunk followed by any text. -/
theorem Chunk.replaceAllFrom {u : List Char} (hu : Chunk u) {e : List Char × List Char}
    (he : e ∈ entities) (rest : List Char) :
    replaceAllFrom e.1 e.2 0 (u ++ rest) =
        (if u = e.1 then e.2 else u) ++ replaceAllFrom e.1 e.2 0 rest ∧
      Chunk (if u = e.1 then e.2 else u) := by
  rcases hu with ⟨hlen, hamp⟩ | hu
  · have hne : u ≠ e.1 := fun h => (entities_pattern e he).2 (h ▸ hlen)
    rw [if_neg hne]
    exact ⟨replaceAllFrom_noAmp (entities_pattern e he).1 hamp rest, .inl ⟨hlen, hamp⟩⟩
  · obtain ⟨hold, hhead, htail, hm, hc⟩ := escapedEntities_decode e he u hu
    exact ⟨replaceAllFrom_entity hold hhead htail hm rest, hc⟩

/-- One call of `stripHTML` on a text made of chunks decodes each chunk alone. -/
theorem replaceAll_flatMap {e : List Char × List Char} (he : e ∈ entities)
    (g : Char → List Char) :
    ∀ l : List Char, (∀ c ∈ l, Chunk (g c)) →
      replaceAll (l.flatMap g) e.1 e.2 = l.flatMap fun c => if g c = e.1 then e.2 else g c
  | [], _ => rfl
  | c :: l, h => by
    rw [List.flatMap_cons, List.flatMap_cons, replaceAll,
      (Chunk.replaceAllFrom (h c (List.mem_cons_self _ _)) he _).1]
    exact congrArg _ (replaceAll_flatMap he g l fun c hc => h c (List.mem_cons_of_mem _ hc))

/-- Calls of `stripHTML` one after another on a text made of chunks decode each chunk
alone. -/
theorem foldl_replaceAll_flatMap :
    ∀ es : List (List Char × List Char), (∀ e ∈ es, e ∈ entities) →
      ∀ (g : Char → List Char) (l : List Char), (∀ c ∈ l, Chunk (g c)) →
        es.foldl (fun t e => replaceAll t e.1 e.2) (l.flatMap g) =
          l.flatMap fun c => es.foldl (fun u e => if u = e.1 then e.2 else u) (g c)
  | [], _, _, _, _ => rfl
  | e :: es, hes, g, l, h => by
    have he := hes e (List.mem_cons_self _ _)
    rw [List.foldl_cons, replaceAll_flatMap he g l h]
    exact foldl_replaceAll_flatMap es (fun e' h' => hes e' (List.mem_cons_of_mem _ h')) _ l
      fun c hc => (Chunk.replaceAllFrom (h c hc) he []).2

/-- A chunk that is none of the patterns stays as it is. -/
theorem foldl_decode_of_ne {u : List Char} :
    ∀ es : List (List Char × List Char), (∀ e ∈ es, u ≠ e.1) →
      es.foldl (fun u e => if u = e.1 then e.2 else u) u = u
  | [], _ => rfl
  | e :: es, h => by
    rw [List.foldl_cons, if_neg (h e (List.mem_cons_self _ _))]
    exact foldl_decode_of_ne es fun e' h' => h e' (List.mem_cons_of_mem _ h')

/-- The escape of each character, decoded alone, is the character. -/
theorem decode_escChar (c : Char) :
    entities.foldl (fun u e => if u = e.1 then e.2 else u) (escChar c) = [c] := by
  unfold escChar
  split_ifs with h₁ h₂ h₃ h₄ h₅
  · subst h₁; decide
  · subst h₂; decide
  · subst h₃; decide
  · subst h₄; decide
  · subst h₅; decide
  · exact foldl_decode_of_ne entities fun e he h => (entities_pattern e he).2 (h ▸ rfl)

/-- The escape of a character other than `&` is a chunk. -/
theorem escChar_chunk {c : Char} (hc : c ≠ '&') : Chunk (escChar c) := by
  unfold escChar
  split_ifs with h₁ h₂ h₃ h₄ h₅
  · exact absurd h₁ hc
  · decide
  · decide
  · decide
  · decide
  · exact .inl ⟨rfl, fun h => hc (List.mem_singleton.mp h).symm⟩

/-- A text with no `<` has no tag. -/
theorem stripTags_of_not_mem : ∀ {l : List Char}, '<' ∉ l → stripTags false l = l
  | [], _ => rfl
  | c :: l, h => by
    rw [List.mem_cons, not_or] at h
    simp [stripTags, Ne.symm h.1, stripTags_of_not_mem h.2]

/-- No escape contains a `<`, so the escaped data has no tag. -/
theorem lt_not_mem_escChar (c : Char) : '<' ∉ escChar c := by
  unfold escChar
  split_ifs with h₁ h₂
  · decide
  · decide
  · decide
  · decide
  · decide
  · exact fun h => h₂ (List.mem_singleton.mp h).symm

/-- For every text without `&`, the plain text of its escape is the text with its white
space collapsed. -/
theorem stripHTML_inverts_esc (s : String) (h : '&' ∉ s.toList) :
    stripHTML (esc s) = collapse s := by
  have htags : stripTags false (s.toList.flatMap escChar) = s.toList.flatMap escChar :=
    stripTags_of_not_mem (by simp [lt_not_mem_escChar])
  have hdec : decodeEntities (s.toList.flatMap escChar) = s.toList := by
    rw [decodeEntities, foldl_replaceAll_flatMap entities (fun _ h => h) escChar _
      (fun c hc => escChar_chunk (fun hc' => h (hc' ▸ hc)))]
    simp [decode_escChar]
  show (⟨trimSpace (collapseSpaces false
    (decodeEntities (stripTags false (s.toList.flatMap escChar))))⟩ : String) = _
  rw [htags, hdec]; rfl

/-- Data with the characters of a tag and runs of spaces. -/
theorem stripHTML_inverts_esc_markup :
    '&' ∉ "  x < y  >  z ".toList ∧ stripHTML (esc "  x < y  >  z ") = collapse "  x < y  >  z " :=
  ⟨by decide, stripHTML_inverts_esc _ (by decide)⟩

end Notifly
