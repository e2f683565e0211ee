import BulkProvision.Proofs.BaseDirectory
import Mathlib.Data.List.Infix
import Mathlib.Data.List.TakeWhile

/-!
# The references in a text

`Path.Reads` says how a text is put together from characters, references and dollar signs that
stand for themselves; each part is read as such before what cannot belong to it
(`Path.Token.Fits`).  A text has one reading (`Path.existsUnique_reads`), and its parts are the
pieces that expansion finds (`Path.Token.Fits.pieces_eq`).
-/

namespace BulkProvision

/-! ### The first occurrence -/

namespace Text

variable {pattern s before after : List Char}

theorem dropStart?_eq_some_iff : dropStart? pattern s = some after ↔ pattern ++ after = s :=
  ⟨append_of_splitAt?.append_of_dropStart?, fun h => h ▸ dropStart?_append pattern after⟩

theorem append_dropLast_isPrefix (s pattern after : List Char) :
    s ++ pattern.dropLast <+: s ++ (pattern ++ after) :=
  (List.prefix_append_right_inj _).2 (pattern.dropLast_prefix.trans (List.prefix_append _ _))

theorem not_isPrefix_of_not_isInfix {c : Char} (hne : pattern ≠ [])
    (h : ¬ pattern <:+: c :: before ++ pattern.dropLast) :
    ¬ pattern <+: c :: before ++ (pattern ++ after) := by
  intro hprefix
  have hpart := append_dropLast_isPrefix (c :: before) pattern after
  have hlength : pattern.length ≤ (c :: before ++ pattern.dropLast).length := by
    have hpos := List.length_pos_of_ne_nil hne
    rw [List.length_append, List.length_cons, List.length_dropLast]
    omega
  exact h (List.prefix_of_prefix_length_le hprefix hpart hlength).isInfix

/-- **A text is split at the first occurrence of a pattern**: none ends before the pattern does. -/
theorem splitAt?_eq_some_iff (hne : pattern ≠ []) :
    splitAt? pattern s = some (before, after) ↔
      before ++ (pattern ++ after) = s ∧ ¬ pattern <:+: before ++ pattern.dropLast := by
  constructor
  · intro h
    refine ⟨by rw [← List.append_assoc, append_of_splitAt? h], ?_⟩
    induction s generalizing before with
    | nil => simp [splitAt?, hne] at h
    | cons c rest ih =>
      rw [splitAt?] at h
      split at h
      · cases h
        intro hoccurs
        have hle := hoccurs.length_le
        have hpos := List.length_pos_of_ne_nil hne
        rw [List.nil_append, List.length_dropLast] at hle
        omega
      · next hnone =>
        obtain ⟨⟨earlier, _⟩, hrest, heq⟩ := Option.map_eq_some_iff.1 h
        cases heq
        rw [List.cons_append, List.infix_cons_iff, not_or]
        refine ⟨fun hprefix => ?_, ih hrest⟩
        -- the occurrence would have been found at the start
        have hlong : c :: (earlier ++ pattern.dropLast) <+: c :: rest := by
          rw [← append_of_splitAt? hrest, List.append_assoc]
          exact append_dropLast_isPrefix (c :: earlier) pattern after
        obtain ⟨tail, htail⟩ := hprefix.trans hlong
        rw [dropStart?_eq_some_iff.2 htail] at hnone
        cases hnone
  · rintro ⟨rfl, h⟩
    induction before with
    | nil =>
      obtain ⟨c, rest, hpattern⟩ := List.exists_cons_of_ne_nil hne
      rw [List.nil_append]
      conv_lhs => rw [hpattern, List.cons_append, splitAt?, ← List.cons_append, ← hpattern]
      rw [dropStart?_append]
    | cons c before ih =>
      have hstart : dropStart? pattern (c :: before ++ (pattern ++ after)) = none := by
        rw [Option.eq_none_iff_forall_not_mem]
        exact fun tail htail =>
          not_isPrefix_of_not_isInfix hne h ⟨tail, dropStart?_eq_some_iff.1 htail⟩
      rw [List.cons_append] at hstart ⊢
      rw [splitAt?, hstart, ih fun hoccurs => h (List.infix_cons_iff.2 (.inr hoccurs))]
      rfl

theorem splitAt?_eq_none_iff : splitAt? pattern s = none ↔ ¬ pattern <:+: s := by
  rw [← contains_iff, contains, Option.isSome_iff_ne_none, ne_eq, not_not]

theorem splitAt?_singleton_eq_some_iff {c : Char} :
    splitAt? [c] s = some (before, after) ↔ before ++ c :: after = s ∧ c ∉ before := by
  rw [splitAt?_eq_some_iff (List.cons_ne_nil c []), List.dropLast_singleton, List.append_nil,
    List.singleton_infix_iff]
  rfl

theorem splitAt?_singleton_eq_none_iff {c : Char} : splitAt? [c] s = none ↔ c ∉ s := by
  rw [splitAt?_eq_none_iff, List.singleton_infix_iff]

end Text

namespace Path

open Text

/-! ### Parts of a text -/

/-- What stands before a default. -/
def defaultMark : List Char := [':', '-']

theorem defaultMark_ne_nil : defaultMark ≠ [] := List.cons_ne_nil _ _

/-- A part of a text with references. -/
inductive Token where
  /-- A character other than a dollar sign. -/
  | plain (c : Char)
  /-- Two dollar signs, written for one. -/
  | doubled
  /-- A dollar sign that stands for itself. -/
  | lone
  /-- A dollar sign and a brace that is never closed. -/
  | unclosed
  /-- A reference `$name`. -/
  | bare (name : List Char)
  /-- A reference `${name}`. -/
  | braced (name : List Char)
  /-- A reference `${name:-fallback}`. -/
  | defaulted (name fallback : List Char)

namespace Token

/-- A part as it is written. -/
def text : Token → List Char
  | plain c => [c]
  | doubled => ['$', '$']
  | lone => ['$']
  | unclosed => ['$', '\x7b']
  | bare name => '$' :: name
  | braced name => '$' :: '\x7b' :: (name ++ ['\x7d'])
  | defaulted name fallback => '$' :: '\x7b' :: (name ++ (defaultMark ++ fallback) ++ ['\x7d'])

/-- When a part is read as such before the rest of the text. -/
inductive Fits : Token → List Char → Prop
  | plain {c : Char} {rest : List Char} (h : c ≠ '$') : Fits (.plain c) rest
  | doubled {rest : List Char} : Fits .doubled rest
  | lone {rest : List Char}
      (h : ∀ c ∈ rest.head?, c ≠ '$' ∧ c ≠ '\x7b' ∧ isWordChar c = false) : Fits .lone rest
  | unclosed {rest : List Char} (h : '\x7d' ∉ rest) : Fits .unclosed rest
  /-- A bare name is as long as it can be. -/
  | bare {name rest : List Char} (hne : name ≠ []) (hname : ∀ c ∈ name, isWordChar c = true)
      (hrest : ∀ c ∈ rest.head?, isWordChar c = false) : Fits (.bare name) rest
  /-- A name in braces goes to the first closed brace.  A mark at its start does not make what
  follows it a default. -/
  | braced {name rest : List Char} (hname : '\x7d' ∉ name)
      (hmark : defaultMark <:+: name → defaultMark <+: name) : Fits (.braced name) rest
  /-- A default follows the first mark. -/
  | defaulted {name fallback rest : List Char} (hne : name ≠ []) (hname : '\x7d' ∉ name)
      (hfallback : '\x7d' ∉ fallback) (hmark : ¬ defaultMark <:+: name) :
      Fits (.defaulted name fallback) rest

/-- The piece that a part is. -/
def piece : Token → Piece
  | plain c => .text [c]
  | doubled => .text ['$']
  | lone => .text ['$']
  | unclosed => .text ['$', '\x7b']
  | bare name => .reference name none
  | braced name => .reference name none
  | defaulted name fallback => .reference name (some fallback)

end Token

/-- **How a text is read.** -/
inductive Reads : List Char → List Token → Prop
  | nil : Reads [] []
  | cons {token : Token} {tokens : List Token} {rest s : List Char} (h : token.Fits rest)
      (htext : token.text ++ rest = s) (hrest : Reads rest tokens) : Reads s (token :: tokens)

/-! ### Between braces -/

theorem infix_append_dropLast_iff {s : List Char} :
    defaultMark <:+: s ++ defaultMark.dropLast ↔ defaultMark <:+: s := by
  have hdropLast : defaultMark.dropLast = [':'] := rfl
  rw [hdropLast, List.infix_concat_iff, List.suffix_concat_iff]
  refine or_iff_right ?_
  rintro (hnil | ⟨t, ht, -⟩)
  · cases hnil
  · have hlast := congrArg List.getLast? ht
    rw [List.getLast?_concat] at hlast
    cases hlast

theorem splitAt?_defaultMark_iff {inner name fallback : List Char} :
    splitAt? defaultMark inner = some (name, fallback) ↔
      name ++ (defaultMark ++ fallback) = inner ∧ ¬ defaultMark <:+: name := by
  rw [splitAt?_eq_some_iff defaultMark_ne_nil, infix_append_dropLast_iff]

theorem bracedPiece_braced {name : List Char}
    (h : defaultMark <:+: name → defaultMark <+: name) :
    bracedPiece name = .reference name none := by
  rw [bracedPiece]
  split
  · next c outer fallback hsplit =>
    obtain ⟨rfl, hfirst⟩ := splitAt?_defaultMark_iff.1 hsplit
    have hprefix := h ⟨c :: outer, fallback, List.append_assoc _ _ _⟩
    exact absurd hprefix
      (not_isPrefix_of_not_isInfix defaultMark_ne_nil (mt infix_append_dropLast_iff.1 hfirst))
  · rfl

theorem bracedPiece_defaulted {name fallback : List Char} (hne : name ≠ [])
    (h : ¬ defaultMark <:+: name) :
    bracedPiece (name ++ (defaultMark ++ fallback)) = .reference name (some fallback) := by
  obtain ⟨c, outer, rfl⟩ := List.exists_cons_of_ne_nil hne
  have hsplit : splitAt? [':', '-'] (c :: outer ++ (defaultMark ++ fallback)) =
      some (c :: outer, fallback) := splitAt?_defaultMark_iff.2 ⟨rfl, h⟩
  rw [bracedPiece, hsplit]

/-- What stands in braces is a name, with a default or without. -/
theorem exists_fits_inner {inner : List Char} (h : '\x7d' ∉ inner) (rest : List Char) :
    ∃ token : Token, token.Fits rest ∧ token.text = '$' :: '\x7b' :: (inner ++ ['\x7d']) := by
  by_cases hmark : defaultMark <:+: inner → defaultMark <+: inner
  · exact ⟨.braced inner, .braced h hmark, rfl⟩
  · rw [Classical.not_imp] at hmark
    obtain ⟨hoccurs, hstart⟩ := hmark
    cases hsplit : splitAt? defaultMark inner with
    | none => exact absurd hoccurs (splitAt?_eq_none_iff.1 hsplit)
    | some parts =>
      obtain ⟨name, fallback⟩ := parts
      obtain ⟨rfl, hfirst⟩ := splitAt?_defaultMark_iff.1 hsplit
      rw [List.mem_append, List.mem_append, not_or, not_or] at h
      have hne : name ≠ [] := by
        rintro rfl
        exact hstart (List.prefix_append _ _)
      exact ⟨.defaulted name fallback, .defaulted hne h.1 h.2.2 hfirst, rfl⟩

/-! ### Where a part starts -/

variable {token token' : Token} {tokens tokens' : List Token} {rest rest' s : List Char} {c : Char}

theorem Token.text_ne_nil (token : Token) : token.text ≠ [] := by
  cases token <;> exact List.cons_ne_nil _ _

/-- Away from the dollar signs each character is a part. -/
theorem Token.Fits.eq_plain (h : token.Fits rest) (htext : token.text ++ rest = c :: s)
    (hc : c ≠ '$') : token = .plain c ∧ rest = s := by
  cases h with
  | plain =>
    obtain ⟨rfl, rfl⟩ := List.cons.inj htext
    exact ⟨rfl, rfl⟩
  | _ => exact absurd (List.cons.inj htext).1.symm hc

theorem pieceAfterDollar_closed {inner : List Char} (h : '\x7d' ∉ inner) :
    pieceAfterDollar ('\x7b' :: (inner ++ '\x7d' :: rest)) = (bracedPiece inner, rest) := by
  rw [pieceAfterDollar, if_pos rfl, splitAt?_singleton_eq_some_iff.2 ⟨rfl, h⟩]

theorem pieceAfterDollar_bare {name : List Char} (hne : name ≠ [])
    (hname : ∀ c ∈ name, isWordChar c = true) (hrest : ∀ c ∈ rest.head?, isWordChar c = false) :
    pieceAfterDollar (name ++ rest) = (.reference name none, rest) := by
  obtain ⟨c, name, rfl⟩ := List.exists_cons_of_ne_nil hne
  obtain ⟨hc, hname⟩ := List.forall_mem_cons.1 hname
  have hbrace : c ≠ '\x7b' := by
    rintro rfl
    exact absurd hc (by decide)
  have hspan : rest.takeWhile isWordChar = [] ∧ rest.dropWhile isWordChar = rest := by
    cases rest with
    | nil => exact ⟨rfl, rfl⟩
    | cons d rest => simp [hrest d rfl]
  rw [List.cons_append, pieceAfterDollar, if_neg hbrace, if_pos hc,
    List.takeWhile_append_of_pos hname, List.dropWhile_append_of_pos hname, hspan.1, hspan.2,
    List.append_nil]

theorem pieceAfterDollar_lone
    (h : ∀ c ∈ rest.head?, c ≠ '$' ∧ c ≠ '\x7b' ∧ isWordChar c = false) :
    pieceAfterDollar rest = (.text ['$'], rest) := by
  cases rest with
  | nil => rfl
  | cons c rest =>
    obtain ⟨hdollar, hbrace, hword⟩ := h c rfl
    rw [pieceAfterDollar, if_neg hbrace, if_neg (by simp [hword]), if_neg hdollar]

/-- **A part that starts with a dollar sign** is the piece found there. -/
theorem Token.Fits.pieceAfterDollar_eq (h : token.Fits rest)
    (htext : token.text ++ rest = '$' :: s) : pieceAfterDollar s = (token.piece, rest) := by
  cases h with
  | plain hc => exact absurd (List.cons.inj htext).1 hc
  | doubled => exact (List.cons.inj htext).2 ▸ rfl
  | lone hrest => exact (List.cons.inj htext).2 ▸ pieceAfterDollar_lone hrest
  | unclosed hrest =>
    have hs : '\x7b' :: rest = s := (List.cons.inj htext).2
    rw [← hs, pieceAfterDollar, if_pos rfl, splitAt?_singleton_eq_none_iff.2 hrest]
    rfl
  | bare hne hname hrest =>
    exact (List.cons.inj htext).2 ▸ pieceAfterDollar_bare hne hname hrest
  | @braced name _ hname hmark =>
    have hs : '\x7b' :: (name ++ '\x7d' :: rest) = s := by
      simpa [Token.text] using htext
    rw [← hs, pieceAfterDollar_closed hname, bracedPiece_braced hmark]
    rfl
  | @defaulted name fallback _ hne hname hfallback hmark =>
    have hs : '\x7b' :: (name ++ (defaultMark ++ fallback) ++ '\x7d' :: rest) = s := by
      simpa [Token.text] using htext
    have hinner : '\x7d' ∉ name ++ (defaultMark ++ fallback) := by
      simp [hname, hfallback, defaultMark]
    rw [← hs, pieceAfterDollar_closed hinner, bracedPiece_defaulted hne hmark]
    rfl

/-- Some part starts with each dollar sign. -/
theorem exists_fits (s : List Char) :
    ∃ token : Token, token.Fits (pieceAfterDollar s).2 ∧
      token.text ++ (pieceAfterDollar s).2 = '$' :: s := by
  cases s with
  | nil => exact ⟨.lone, .lone (by simp [pieceAfterDollar]), rfl⟩
  | cons c rest =>
    rw [pieceAfterDollar]
    split_ifs with hbrace hword hdollar
    · subst hbrace
      split
      · next inner after hsplit =>
        obtain ⟨rfl, hinner⟩ := splitAt?_singleton_eq_some_iff.1 hsplit
        obtain ⟨token, hfits, htext⟩ := exists_fits_inner hinner after
        exact ⟨token, hfits, by simp [htext]⟩
      · next hsplit =>
        exact ⟨.unclosed, .unclosed (splitAt?_singleton_eq_none_iff.1 hsplit), rfl⟩
    · refine ⟨.bare (c :: rest.takeWhile isWordChar), .bare (List.cons_ne_nil _ _) ?_ ?_, ?_⟩
      · exact List.forall_mem_cons.2 ⟨hword, fun d hd => List.mem_takeWhile_imp hd⟩
      · intro d hd
        have hhead := List.head?_dropWhile_not isWordChar rest
        rwa [Option.mem_def.1 hd] at hhead
      · rw [Token.text, List.cons_append, List.cons_append, List.takeWhile_append_dropWhile]
    · exact ⟨.doubled, .doubled, by rw [hdollar]; rfl⟩
    · refine ⟨.lone, .lone fun d hd => ?_, rfl⟩
      obtain rfl : c = d := by simpa using hd
      exact ⟨hdollar, hbrace, by simpa using hword⟩

/-! ### The reading of a text -/

/-- The text of a part and the piece it is tell which part it is. -/
theorem Token.Fits.eq_of_piece_eq (h : token.Fits rest) (h' : token'.Fits rest)
    (htext : token.text = token'.text) (hpiece : token.piece = token'.piece) : token = token' := by
  cases h <;> cases h' <;> grind [Token.text, Token.piece]

theorem Token.Fits.unique (h : token.Fits rest) (h' : token'.Fits rest')
    (heq : token.text ++ rest = token'.text ++ rest') : token = token' ∧ rest = rest' := by
  obtain ⟨c, s, hs⟩ := List.exists_cons_of_ne_nil
    (List.append_ne_nil_of_left_ne_nil token.text_ne_nil rest)
  by_cases hc : c = '$'
  · subst hc
    have hpieces := (h.pieceAfterDollar_eq hs).symm.trans
      (h'.pieceAfterDollar_eq (heq.symm.trans hs))
    obtain ⟨hpiece, rfl⟩ := Prod.mk.inj hpieces
    exact ⟨h.eq_of_piece_eq h' (List.append_cancel_right heq) hpiece, rfl⟩
  · obtain ⟨rfl, rfl⟩ := h.eq_plain hs hc
    obtain ⟨rfl, rfl⟩ := h'.eq_plain (heq.symm.trans hs) hc
    exact ⟨rfl, rfl⟩

theorem Reads.unique (h : Reads s tokens) (h' : Reads s tokens') : tokens = tokens' := by
  induction h generalizing tokens' with
  | nil =>
    cases h' with
    | nil => rfl
    | cons _ htext => exact absurd (List.append_eq_nil_iff.1 htext).1 (Token.text_ne_nil _)
  | cons hfits htext _ ih =>
    cases h' with
    | nil => exact absurd (List.append_eq_nil_iff.1 htext).1 (Token.text_ne_nil _)
    | cons hfits' htext' hrest' =>
      obtain ⟨rfl, rfl⟩ := hfits.unique hfits' (htext.trans htext'.symm)
      rw [ih hrest']

theorem exists_reads (s : List Char) : ∃ tokens, Reads s tokens := by
  induction s using pieces.induct with
  | case1 => exact ⟨[], .nil⟩
  | case2 rest ih =>
    obtain ⟨tokens, hreads⟩ := ih
    obtain ⟨token, hfits, htext⟩ := exists_fits rest
    exact ⟨token :: tokens, .cons hfits htext hreads⟩
  | case3 c rest hc ih =>
    obtain ⟨tokens, hreads⟩ := ih
    exact ⟨.plain c :: tokens, .cons (.plain hc) rfl hreads⟩

/-- **A text is read in one way.** -/
theorem existsUnique_reads (s : List Char) : ∃! tokens, Reads s tokens := by
  obtain ⟨tokens, hreads⟩ := exists_reads s
  exact ⟨tokens, hreads, fun _ h => h.unique hreads⟩

/-- **The first piece of a text** is the part that it starts with. -/
theorem Token.Fits.pieces_eq (h : token.Fits rest) (htext : token.text ++ rest = s) :
    pieces s = token.piece :: pieces rest := by
  obtain ⟨c, s', rfl⟩ := List.exists_cons_of_ne_nil (l := s) (by
    rw [← htext]
    exact List.append_ne_nil_of_left_ne_nil token.text_ne_nil rest)
  by_cases hc : c = '$'
  · subst hc
    rw [pieces, if_pos rfl, h.pieceAfterDollar_eq htext]
  · obtain ⟨rfl, rfl⟩ := h.eq_plain htext hc
    exact pieces_cons hc _

end Path

end BulkProvision
