import BulkProvision.Proofs.References

/-!
# What expansion makes of a path

`Path.expanded_of_home` settles expansion over the reading of the path (`Path.Reads`).  One
reference to an undefined variable without default cancels all others, and the path is taken as it
is written; else every part is replaced by what it stands for (`Path.Token.Stands`), which is not
read again.  The home directory comes last (`Path.AtHome`), so that a value may start with it.
-/

namespace BulkProvision

namespace Path

open Text FileTree

/-! ### Variables -/

/-- A name stands for a value where the environment has a line `name=value`.  The line of a
variable with an equals sign in its value is read with every name that ends at one. -/
def Defines (env : Environment) (name value : List Char) : Prop :=
  ∃ key text, env.get? key = some text ∧ '=' ∉ key.toList ∧
    key.toList ++ '=' :: text.toList = name ++ '=' :: value

variable {env : Environment} {name value : List Char}

/-- The part of a text before an equals sign and the part after the first. -/
theorem append_equals_inj {a a' b b' : List Char} (h : '=' ∉ a) (h' : '=' ∉ a')
    (heq : a ++ '=' :: b = a' ++ '=' :: b') : a = a' ∧ b = b' := by
  have hsplit := splitAt?_singleton_eq_some_iff.2 ⟨heq, h⟩
  rw [splitAt?_singleton_eq_some_iff.2 ⟨rfl, h'⟩] at hsplit
  cases hsplit
  exact ⟨rfl, rfl⟩

theorem valueOf?_eq_some_iff : valueOf? env name = some value ↔ Defines env name value := by
  rw [valueOf?]
  cases hsplit : splitAt? ['='] name with
  | none =>
    have hname := splitAt?_singleton_eq_none_iff.1 hsplit
    simp only [Option.map_eq_some_iff]
    constructor
    · rintro ⟨text, htext, rfl⟩
      exact ⟨String.ofList name, text, htext, by rwa [String.toList_ofList],
        by rw [String.toList_ofList]⟩
    · rintro ⟨key, text, htext, hkey, heq⟩
      obtain ⟨rfl, rfl⟩ := append_equals_inj hkey hname heq
      exact ⟨text, by rwa [String.ofList_toList], rfl⟩
  | some parts =>
    obtain ⟨outer, start⟩ := parts
    obtain ⟨rfl, houter⟩ := splitAt?_singleton_eq_some_iff.1 hsplit
    simp only [Option.bind_eq_some_iff, dropStart?_eq_some_iff]
    constructor
    · rintro ⟨text, htext, heq⟩
      refine ⟨String.ofList outer, text, htext, by rwa [String.toList_ofList], ?_⟩
      rw [String.toList_ofList, ← heq]
      simp
    · rintro ⟨key, text, htext, hkey, heq⟩
      rw [List.append_assoc, List.cons_append] at heq
      obtain ⟨rfl, hvalue⟩ := append_equals_inj hkey houter heq
      exact ⟨text, by rwa [String.ofList_toList], by rw [hvalue, List.append_assoc]; rfl⟩

theorem valueOf?_eq_none_iff : valueOf? env name = none ↔ ∀ value, ¬ Defines env name value := by
  simp only [Option.eq_none_iff_forall_ne_some, ne_eq, valueOf?_eq_some_iff]

/-- A name without an equals sign is that of a variable. -/
theorem defines_iff (h : '=' ∉ name) :
    Defines env name value ↔ env.get? (String.ofList name) = some (String.ofList value) := by
  rw [← valueOf?_eq_some_iff, valueOf?, splitAt?_singleton_eq_none_iff.2 h]
  simp only [Option.map_eq_some_iff]
  constructor
  · rintro ⟨text, htext, rfl⟩
    rw [htext, String.ofList_toList]
  · exact fun hget => ⟨_, hget, String.toList_ofList⟩

/-! ### What a part stands for -/

namespace Token

/-- What a part stands for. -/
inductive Stands (env : Environment) : Token → List Char → Prop
  | plain (c : Char) : Stands env (.plain c) [c]
  | doubled : Stands env .doubled ['$']
  | lone : Stands env .lone ['$']
  | unclosed : Stands env .unclosed ['$', '\x7b']
  | bare {name value : List Char} (h : Defines env name value) : Stands env (.bare name) value
  | braced {name value : List Char} (h : Defines env name value) : Stands env (.braced name) value
  | defaulted {name value : List Char} (fallback : List Char) (h : Defines env name value) :
      Stands env (.defaulted name fallback) value
  | fallback {name : List Char} (fallback : List Char) (h : ∀ value, ¬ Defines env name value) :
      Stands env (.defaulted name fallback) fallback

/-- A reference without default to a variable that is undefined. -/
inductive Dangles (env : Environment) : Token → Prop
  | bare {name : List Char} (h : ∀ value, ¬ Defines env name value) : Dangles env (.bare name)
  | braced {name : List Char} (h : ∀ value, ¬ Defines env name value) : Dangles env (.braced name)

end Token

theorem Piece.value?_reference_none :
    (Piece.reference name none).value? env = valueOf? env name := by
  rw [Piece.value?]
  cases valueOf? env name <;> rfl

variable {token : Token} {tokens : List Token} {part rest s : List Char} {parts : List (List Char)}

/-- What a part stands for is the value of its piece. -/
theorem Token.stands_iff : token.Stands env part ↔ token.piece.value? env = some part := by
  constructor
  · rintro (_ | _ | _ | _ | h | h | ⟨fallback, h⟩ | ⟨fallback, h⟩)
    iterate 4 rfl
    · exact Piece.value?_reference_none.trans (valueOf?_eq_some_iff.2 h)
    · exact Piece.value?_reference_none.trans (valueOf?_eq_some_iff.2 h)
    · rw [piece, Piece.value?, valueOf?_eq_some_iff.2 h]
    · rw [piece, Piece.value?, valueOf?_eq_none_iff.2 h]
  · intro h
    cases token with
    | plain | doubled | lone | unclosed =>
      cases h
      constructor
    | bare name => exact .bare (valueOf?_eq_some_iff.1 (Piece.value?_reference_none.symm.trans h))
    | braced name =>
      exact .braced (valueOf?_eq_some_iff.1 (Piece.value?_reference_none.symm.trans h))
    | defaulted name fallback =>
      rw [piece, Piece.value?] at h
      split at h
      · next value hvalue =>
        cases h
        exact .defaulted fallback (valueOf?_eq_some_iff.1 hvalue)
      · next hnone =>
        cases h
        exact .fallback part (valueOf?_eq_none_iff.1 hnone)

/-- A part has no value just when it dangles. -/
theorem Token.dangles_iff : token.Dangles env ↔ token.piece.value? env = none := by
  constructor
  · rintro (h | h) <;> exact Piece.value?_reference_none.trans (valueOf?_eq_none_iff.2 h)
  · intro h
    cases token with
    | plain | doubled | lone | unclosed => cases h
    | bare name => exact .bare (valueOf?_eq_none_iff.1 (Piece.value?_reference_none.symm.trans h))
    | braced name =>
      exact .braced (valueOf?_eq_none_iff.1 (Piece.value?_reference_none.symm.trans h))
    | defaulted name fallback =>
      rw [piece, Piece.value?] at h
      split at h <;> cases h

/-- Where nothing dangles, every part stands for something. -/
theorem exists_forall₂_stands (h : ∀ token ∈ tokens, ¬ token.Dangles env) :
    ∃ parts, List.Forall₂ (Token.Stands env) tokens parts := by
  induction tokens with
  | nil => exact ⟨[], .nil⟩
  | cons token tokens ih =>
    obtain ⟨htoken, htokens⟩ := List.forall_mem_cons.1 h
    obtain ⟨parts, hparts⟩ := ih htokens
    obtain ⟨part, hpart⟩ := Option.ne_none_iff_exists'.1 (mt Token.dangles_iff.2 htoken)
    exact ⟨part :: parts, .cons (Token.stands_iff.2 hpart) hparts⟩

/-! ### Substitution -/

/-- **One part is replaced**, and the rest for itself. -/
theorem Token.Fits.substitute_eq (h : token.Fits rest) (htext : token.text ++ rest = s) :
    substitute env s =
      (token.piece.value? env).bind fun part => (substitute env rest).map (part ++ ·) := by
  rw [substitute, substitute, h.pieces_eq htext, List.mapM_cons]
  cases token.piece.value? env with
  | none => rfl
  | some part => cases (pieces rest).mapM (Piece.value? env) <;> rfl

/-- **A text is replaced part by part.** -/
theorem Reads.substitute_eq (h : Reads s tokens)
    (hparts : List.Forall₂ (Token.Stands env) tokens parts) :
    substitute env s = some parts.flatten := by
  induction h generalizing parts with
  | nil =>
    cases hparts
    exact substitute_of_plain env (by simp)
  | cons hfits htext _ ih =>
    obtain ⟨part, others, hpart, hothers, rfl⟩ := List.forall₂_cons_left_iff.1 hparts
    rw [hfits.substitute_eq htext, Token.stands_iff.1 hpart, ih hothers]
    rfl

/-- **All or nothing**: one part that dangles is enough for nothing to be replaced. -/
theorem Reads.substitute_eq_none (h : Reads s tokens)
    (hdangles : ∃ token ∈ tokens, token.Dangles env) : substitute env s = none := by
  obtain ⟨dangling, hmem, hdangling⟩ := hdangles
  induction h with
  | nil => cases hmem
  | @cons token _ _ _ hfits htext _ ih =>
    rw [hfits.substitute_eq htext]
    rcases List.mem_cons.1 hmem with rfl | hmem
    · rw [Token.dangles_iff.1 hdangling]
      rfl
    · rw [ih hmem]
      cases token.piece.value? env <;> rfl

/-! ### The home directory -/

/-- The home directory is put for a `~` that stands alone or before a slash. -/
inductive AtHome (home : List Char) : List Char → List Char → Prop
  | alone : AtHome home ['~'] home
  | below (rest : List Char) : AtHome home ('~' :: '/' :: rest) (home ++ '/' :: rest)
  | elsewhere {s : List Char} (halone : s ≠ ['~']) (hbelow : ¬ ['~', '/'] <+: s) : AtHome home s s

variable {home : List Char} {out out' : List Char}

theorem AtHome.unique (h : AtHome home s out) (h' : AtHome home s out') : out = out' := by
  cases h <;> cases h' <;> simp_all

theorem atHome_expandHome {home : String} (hhome : env.get? "HOME" = some home) (hne : home ≠ "")
    (s : List Char) : AtHome home.toList s (expandHome env s) := by
  by_cases hhead : s.head? = some '~'
  · obtain ⟨rest, rfl⟩ := List.head?_eq_some_iff.1 hhead
    rw [expandHome, hhome]
    simp only [if_neg hne]
    split_ifs with hrest
    · rcases hrest with rfl | hslash
      · rw [List.append_nil]
        exact .alone
      · obtain ⟨rest, rfl⟩ := List.head?_eq_some_iff.1 hslash
        exact .below rest
    · rw [not_or] at hrest
      refine .elsewhere (fun heq => hrest.1 (List.cons.inj heq).2) ?_
      rintro ⟨rest', heq⟩
      exact hrest.2 (List.head?_eq_some_iff.2 ⟨rest', (List.cons.inj heq).2.symm⟩)
  · rw [expandHome_of_head? env hhead]
    refine .elsewhere (fun heq => hhead (heq ▸ rfl)) ?_
    rintro ⟨rest, rfl⟩
    exact hhead rfl

/-! ### The expanded path -/

/-- What expansion makes of a path. -/
structure Expanded (env : Environment) (home path : String) : Prop where
  /-- The path is read in one way. -/
  read : ∃! tokens, Reads path.toList tokens
  /-- One reference that dangles leaves the path as it is written. -/
  kept : ∀ tokens, Reads path.toList tokens → (∃ token ∈ tokens, token.Dangles env) →
    AtHome home.toList path.toList (expand env path).toList
  /-- Where nothing dangles, every part stands for something. -/
  exists_parts : ∀ tokens, Reads path.toList tokens → (∀ token ∈ tokens, ¬ token.Dangles env) →
    ∃ parts, List.Forall₂ (Token.Stands env) tokens parts
  /-- What the parts stand for is put together, and not read again. -/
  replaced : ∀ tokens parts, Reads path.toList tokens →
    List.Forall₂ (Token.Stands env) tokens parts →
    AtHome home.toList parts.flatten (expand env path).toList
  /-- The home directory is put for a `~` in the value that the path starts with. -/
  fromValue : ∀ token tokens below, Reads path.toList (token :: tokens) →
    token.Stands env ('~' :: '/' :: below) → (∀ token ∈ tokens, ¬ token.Dangles env) →
    home.toList ++ '/' :: below <+: (expand env path).toList
  /-- A path written out stays. -/
  plain : '$' ∉ path.toList → path.toList.head? ≠ some '~' → expand env path = path
  /-- An absolute path is not taken below a base directory. -/
  absolute : ∀ base, isAbsolute (expand env path) = true → resolve env base path = expand env path
  /-- A relative path is taken below a base directory, with a slash between the two where there is
  none. -/
  relative : ∀ base, isAbsolute (expand env path) = false →
    resolve env base path = asDirectory base ++ expand env path

theorem toList_expand_of_substitute {path : String} {replaced : List Char}
    (h : substitute env path.toList = some replaced) :
    (expand env path).toList = expandHome env replaced := by
  rw [expand, h, Option.getD_some, String.toList_ofList]

/-- **What expansion makes of every path**, where there is a home directory. -/
theorem expanded_of_home {home : String} (path : String) (hhome : env.get? "HOME" = some home)
    (hne : home ≠ "") : Expanded env home path := by
  have hreplaced : ∀ tokens parts, Reads path.toList tokens →
      List.Forall₂ (Token.Stands env) tokens parts →
      AtHome home.toList parts.flatten (expand env path).toList := by
    intro tokens parts hreads hparts
    rw [toList_expand_of_substitute (hreads.substitute_eq hparts)]
    exact atHome_expandHome hhome hne _
  refine ⟨existsUnique_reads _, fun tokens hreads hdangles => ?_,
    fun tokens _ hdangles => exists_forall₂_stands hdangles, hreplaced,
    fun token tokens below hreads hstands hdangles => ?_, expand_of_plain env,
    fun base habsolute => ?_, fun base hrelative => ?_⟩
  · rw [expand, hreads.substitute_eq_none hdangles, Option.getD_none, String.toList_ofList]
    exact atHome_expandHome hhome hne _
  · obtain ⟨parts, hparts⟩ := exists_forall₂_stands hdangles
    have hhead := hreplaced _ _ hreads (.cons hstands hparts)
    rw [hhead.unique (.below (below ++ parts.flatten))]
    exact ⟨parts.flatten, by simp⟩
  · rw [resolve, if_pos habsolute]
  · rw [resolve, if_neg (by simp [hrelative]), join_eq]

/-- A variable in the home directory. -/
def sampleEnvironment : Environment := NameMap.ofList [("HOME", "/home/tester"), ("DATA", "~/data")]

/-- A value that starts with the home directory, before a default that looks like a reference; and
the same reference before one that dangles. -/
theorem expanded_of_home_sample :
    sampleEnvironment.get? "HOME" = some "/home/tester" ∧ "/home/tester" ≠ "" ∧
      expand sampleEnvironment "$DATA/$\x7bYEAR:-$HOME\x7d" = "/home/tester/data/$HOME" ∧
      expand sampleEnvironment "~/$DATA/$YEAR" = "/home/tester/$DATA/$YEAR" := by
  have hhome : sampleEnvironment.get? "HOME" = some "/home/tester" := by decide +kernel
  have hne : "/home/tester" ≠ "" := by decide
  have hdata : Defines sampleEnvironment "DATA".toList "~/data".toList :=
    (defines_iff (by decide)).2 (by decide +kernel)
  have hdataWord : ∀ c ∈ "DATA".toList, isWordChar c = true := List.all_eq_true.1 (by decide)
  have hyearWord : ∀ c ∈ "YEAR".toList, isWordChar c = true := List.all_eq_true.1 (by decide)
  have hslash : ∀ rest, ∀ c ∈ ('/' :: rest).head?, isWordChar c = false := by
    intro rest c hc
    obtain rfl := Option.some.inj hc
    decide
  have hyear : ∀ value, ¬ Defines sampleEnvironment "YEAR".toList value :=
    valueOf?_eq_none_iff.1 (by decide +kernel)
  refine ⟨hhome, hne, ?_, ?_⟩
  · have hreads : Reads "$DATA/$\x7bYEAR:-$HOME\x7d".toList
        [.bare "DATA".toList, .plain '/', .defaulted "YEAR".toList "$HOME".toList] :=
      .cons (.bare (by decide) hdataWord (hslash _)) rfl <|
        .cons (.plain (by decide)) rfl <|
          .cons (.defaulted (by decide) (by decide) (by decide) (by decide)) rfl .nil
    have hparts : List.Forall₂ (Token.Stands sampleEnvironment)
        [.bare "DATA".toList, .plain '/', .defaulted "YEAR".toList "$HOME".toList]
        ["~/data".toList, ['/'], "$HOME".toList] :=
      .cons (.bare hdata) (.cons (.plain '/') (.cons (.fallback _ hyear) .nil))
    have hexpanded := (expanded_of_home _ hhome hne).replaced _ _ hreads hparts
    exact String.toList_inj.1 (hexpanded.unique (.below "data/$HOME".toList))
  · have hreads : Reads "~/$DATA/$YEAR".toList
        [.plain '~', .plain '/', .bare "DATA".toList, .plain '/', .bare "YEAR".toList] :=
      .cons (.plain (by decide)) rfl <|
        .cons (.plain (by decide)) rfl <|
          .cons (.bare (by decide) hdataWord (hslash _)) rfl <|
            .cons (.plain (by decide)) rfl <|
              .cons (.bare (by decide) hyearWord (by simp)) rfl .nil
    have hexpanded := (expanded_of_home _ hhome hne).kept _ hreads
      ⟨.bare "YEAR".toList, by simp, .bare hyear⟩
    exact String.toList_inj.1 (hexpanded.unique (.below "$DATA/$YEAR".toList))

end Path

end BulkProvision
