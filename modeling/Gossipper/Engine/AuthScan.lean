/-
Module: Gossipper.Engine.AuthScan
Purpose: Two scans of a template for `[authentication]` tokens compared: one that looks
  for the keyword behind an opening bracket, whatever stands around it, and the one of
  the renderer, which takes brackets as they come and ends at the end of the line.
Trusted boundary: none
Main exports: startsAuth, spelledAuth, opensAuth, Marked, OneLineMarks, Unambiguous,
  keys_agree_iff
-/
import Gossipper.Go.Lowered
import Gossipper.Template.Tokens

namespace Gossipper.Engine

open Go Template Brackets List

/-- The keyword behind an opening bracket, in ASCII letters of any case. -/
def startsAuth (text : Bytes) : Bool :=
  hasPrefix (text.map lowerASCII) (ascii "[authentication")

/-- A key that starts with the keyword, in ASCII letters of any case. -/
def spelledAuth (key : Bytes) : Bool :=
  hasPrefix (key.map lowerASCII) (ascii "authentication")

/-- A `[authentication` with a closing bracket somewhere behind it. -/
def opensAuth (text : Bytes) : Bool :=
  startsAuth text && decide (closeBracket ∈ text)

/-- A `[authentication` in a text, up to the next closing bracket. -/
structure Marked (text before key after : Bytes) : Prop where
  whole : text = before ++ (key ++ closeBracket :: after)
  starts : startsAuth key = true
  unclosed : closeBracket ∉ key

/-! ### The keyword and the brackets -/

theorem lowerASCII_eq_bracket (bracket : c = openBracket ∨ c = closeBracket) :
    lowerASCII b = c ↔ b = c := by
  constructor
  · intro lowered
    have values : (lowerASCII b).toNat = 0x5B ∨ (lowerASCII b).toNat = 0x5D := by
      rcases bracket with rfl | rfl
      · exact .inl (by rw [lowered]; rfl)
      · exact .inr (by rw [lowered]; rfl)
    have small : b.toNat < 0x80 := lowerASCII_small_iff.mp (by omega)
    have value : (lowerASCII b).toNat = asciiLower b.toNat := by
      rw [lowerASCII, UInt8.toNat_ofNat',
        Nat.mod_eq_of_lt (Nat.lt_trans (asciiLower_small small) (by decide))]
    have same : asciiLower b.toNat = b.toNat := by
      simp only [Rune, asciiLower] at value ⊢
      split at value
      · omega
      · rename_i other
        rw [if_neg other]
    rw [← lowered, ← UInt8.toNat_inj, value, same]
  · rintro rfl
    rcases bracket with rfl | rfl <;> decide

variable {b : UInt8}

theorem startsAuth_cons :
    startsAuth (b :: rest) = true ↔ b = openBracket ∧ spelledAuth rest = true := by
  have word : ascii "[authentication" = openBracket :: ascii "authentication" := by decide
  rw [startsAuth, spelledAuth, hasPrefix_iff, hasPrefix_iff, word, map_cons,
    cons_prefix_cons, eq_comm, lowerASCII_eq_bracket (.inl rfl)]

theorem startsAuth_nil : startsAuth [] = false := by decide

theorem startsAuth_append_close (text after : Bytes) :
    startsAuth (text ++ closeBracket :: after) = startsAuth text := by
  have close : lowerASCII closeBracket = closeBracket := by decide
  rw [startsAuth, startsAuth, map_append, map_cons, close,
    hasPrefix_append_cons (by decide)]

theorem spelledAuth_append_close (key after : Bytes) :
    spelledAuth (key ++ closeBracket :: after) = spelledAuth key := by
  have close : lowerASCII closeBracket = closeBracket := by decide
  rw [spelledAuth, spelledAuth, map_append, map_cons, close,
    hasPrefix_append_cons (by decide)]

theorem opensAuth_closes (b : UInt8) (rest : Bytes) (isOpen : opensAuth (b :: rest) = true) :
    closeBracket ∈ rest := by
  rw [opensAuth, Bool.and_eq_true, decide_eq_true_eq, mem_cons] at isOpen
  refine isOpen.2.resolve_left fun isClose => ?_
  have isBracket := (startsAuth_cons.mp isOpen.1).1
  rw [← isClose] at isBracket
  cases isBracket

theorem opensAuth_key (spelled : spelledAuth key = true) (after : Bytes) :
    opensAuth (openBracket :: (key ++ closeBracket :: after)) = true := by
  rw [opensAuth, Bool.and_eq_true, startsAuth_cons, spelledAuth_append_close]
  exact ⟨⟨rfl, spelled⟩, by simp⟩

theorem opensAuth_of_not_starts (other : startsAuth text = false) :
    opensAuth text = false := by
  rw [opensAuth, other, Bool.false_and]

theorem solidStart_of_spelledAuth (spelled : spelledAuth key = true) :
    SolidStart key := by
  cases key with
  | nil => cases (by decide : spelledAuth [] = false).symm.trans spelled
  | cons b rest =>
    have word : ascii "authentication" = 0x61 :: ascii "uthentication" := by decide
    rw [spelledAuth, hasPrefix_iff, word, map_cons, cons_prefix_cons] at spelled
    have small : b.toNat < 0x80 := lowerASCII_small_iff.mp (by rw [← spelled.1]; decide)
    refine ⟨small, ?_⟩
    by_contra space
    have isSpace : isSpace b.toNat = true := by simpa using space
    have low : ∀ n < 0x80, Go.isSpace n = true → UInt8.ofNat (asciiLower n) ≠ 0x61 := by decide
    exact low b.toNat small isSpace spelled.1.symm

theorem contains_cons (b : UInt8) (rest sep : Bytes) :
    contains (b :: rest) sep = (hasPrefix (b :: rest) sep || contains rest sep) := by
  rw [Go.contains, index, Go.contains]
  cases hasPrefix (b :: rest) sep <;> simp

/-! ### A key that both scans pass through -/

/-- A key with `[authentication` inside. -/
def hasOpening (key : Bytes) : Bool :=
  contains (key.map lowerASCII) (ascii "[authentication")

theorem hasOpening_cons (b : UInt8) (rest : Bytes) :
    hasOpening (b :: rest) = (startsAuth (b :: rest) || hasOpening rest) := by
  rw [hasOpening, map_cons, contains_cons, startsAuth, map_cons, hasOpening]

/-- A scan for `[authentication` that starts inside other text finds nothing before the
next closing bracket, or one key that ends there. -/
theorem keys_auth_through (absent : closeBracket ∉ key) (after : Bytes) :
    hasOpening key = false ∧
        keys closeBracket opensAuth (key ++ closeBracket :: after) =
          keys closeBracket opensAuth after ∨
      hasOpening key = true ∧ ∃ inner,
        keys closeBracket opensAuth (key ++ closeBracket :: after) =
          inner :: keys closeBracket opensAuth after := by
  induction key with
  | nil =>
    refine .inl ⟨by decide, ?_⟩
    rw [nil_append, keys_skip]
    apply opensAuth_of_not_starts
    rw [Bool.eq_false_iff]
    intro starts
    cases (startsAuth_cons.mp starts).1
  | cons b key ih =>
    rw [mem_cons, not_or] at absent
    rw [hasOpening_cons]
    cases starts : startsAuth (b :: key) with
    | true =>
      obtain ⟨rfl, spelled⟩ := startsAuth_cons.mp starts
      refine .inr ⟨rfl, key, ?_⟩
      rw [cons_append, keys_key absent.2 (opensAuth_key spelled after)]
    | false =>
      have notOpen : opensAuth (b :: (key ++ closeBracket :: after)) = false := by
        apply opensAuth_of_not_starts
        rw [← cons_append, startsAuth_append_close, starts]
      rw [cons_append, keys_skip notOpen, Bool.false_or]
      exact ih absent.2

/-- Blank lines behind an unclosed bracket hold no token of the renderer. -/
theorem keys_token_through {line blank after}
    (absent : closeBracket ∉ line ++ lf :: blank) (noBracket : openBracket ∉ blank) :
    keys closeBracket opensToken (line ++ lf :: blank ++ closeBracket :: after) =
      keys closeBracket opensToken after := by
  rw [keys_plain]
  · rw [keys_skip]
    rw [Bool.eq_false_iff]
    intro isOpen
    cases (opensToken_cons.mp isOpen).1
  · intro b rest ending
    rw [Bool.eq_false_iff]
    intro isOpen
    obtain ⟨rfl, closed⟩ := opensToken_cons.mp isOpen
    by_cases inLine : lf ∈ rest
    · -- The bracket is on the first line, which is not closed.
      obtain ⟨before, later, rfl, noLF⟩ := eq_append_cons_of_mem inLine
      have stops : ((before ++ lf :: later) ++ closeBracket :: after).takeWhile (· ≠ lf) <+:
          before := by
        rw [append_assoc, cons_append, takeWhile_append_of_pos]
        · simp
        · intro c member
          simp only [decide_not, Bool.not_eq_true', decide_eq_false_iff_not]
          rintro rfl
          exact noLF member
      exact absent (ending.subset (by simp [stops.subset closed]))
    · -- It is behind the line end, where there is none.
      rcases suffix_or_suffix_of_suffix ending (suffix_append line (lf :: blank)) with
        inside | outside
      · rcases mem_cons.mp (inside.subset mem_cons_self) with isLF | member
        · cases isLF
        · exact noBracket member
      · rcases suffix_cons_iff.mp outside with same | later
        · cases same
        · exact inLine (later.subset mem_cons_self)

/-! ### Marks and the text in front of them -/

theorem Marked.extend {text before key after} (marked : Marked text before key after)
    (front : Bytes) : Marked (front ++ text) (front ++ before) key after where
  whole := by rw [marked.whole, append_assoc]
  starts := marked.starts
  unclosed := marked.unclosed

/-- A mark either ends at the first closing bracket, or lies behind it. -/
theorem Marked.split {front rest before key after} (absent : closeBracket ∉ front)
    (marked : Marked (front ++ closeBracket :: rest) before key after) :
    front = before ++ key ∨
      ∃ between, before = front ++ closeBracket :: between ∧ Marked rest between key after := by
  rcases append_eq_append_iff.mp marked.whole with
    ⟨more, beforeEq, restEq⟩ | ⟨inner, frontEq, keyEq⟩
  · cases more with
    | nil =>
      -- A key does not start with a closing bracket.
      rw [nil_append] at restEq
      cases key with
      | nil => cases startsAuth_nil.symm.trans marked.starts
      | cons b key =>
        rw [cons_append, List.cons.injEq] at restEq
        exact absurd (restEq.1 ▸ mem_cons_self) marked.unclosed
    | cons b between =>
      rw [cons_append, List.cons.injEq] at restEq
      obtain ⟨rfl, restEq⟩ := restEq
      exact .inr ⟨between, beforeEq, restEq, marked.starts, marked.unclosed⟩
  · left
    have innerAbsent : closeBracket ∉ inner := by
      intro member
      exact absent (frontEq ▸ mem_append_right before member)
    have cutKey : cut (key ++ closeBracket :: after) closeBracket = some (key, after) :=
      cut_append marked.unclosed
    rw [keyEq, cut_append innerAbsent, Option.some.injEq, Prod.mk.injEq] at cutKey
    rw [frontEq, cutKey.1]

theorem Marked.not_nil {before key after} : ¬ Marked [] before key after := by
  intro marked
  have whole := marked.whole
  simp at whole

/-- A mark behind a byte where nothing opens. -/
theorem Marked.tail {rest before key after}
    (notOpen : opensAuth (b :: rest) = false) (marked : Marked (b :: rest) before key after) :
    ∃ later, before = b :: later ∧ Marked rest later key after := by
  cases before with
  | nil =>
    have whole := marked.whole
    rw [nil_append] at whole
    rw [whole, opensAuth, startsAuth_append_close, marked.starts] at notOpen
    simp at notOpen
  | cons c later =>
    have whole := marked.whole
    rw [cons_append, List.cons.injEq] at whole
    obtain ⟨rfl, whole⟩ := whole
    exact ⟨later, rfl, whole, marked.starts, marked.unclosed⟩

/-- The closing bracket of every `[authentication` is on its line. -/
def OneLineMarks (text : Bytes) : Prop :=
  ∀ before key after, Marked text before key after → lf ∉ key

theorem oneLineMarks_skip {rest} (notOpen : opensAuth (b :: rest) = false) :
    OneLineMarks (b :: rest) ↔ OneLineMarks rest := by
  constructor
  · intro oneLine before key after marked
    exact oneLine _ _ _ (marked.extend [b])
  · intro oneLine before key after marked
    obtain ⟨later, _, inRest⟩ := marked.tail notOpen
    exact oneLine _ _ _ inRest

theorem oneLineMarks_key {front} (absent : closeBracket ∉ front) (noLF : lf ∉ front)
    (rest : Bytes) : OneLineMarks (front ++ closeBracket :: rest) ↔ OneLineMarks rest := by
  constructor
  · intro oneLine before key after marked
    have whole := marked.extend (front ++ [closeBracket])
    rw [append_assoc, singleton_append] at whole
    exact oneLine _ _ _ whole
  · intro oneLine before key after marked
    rcases marked.split absent with rfl | ⟨between, _, inRest⟩
    · exact fun member => noLF (mem_append_right before member)
    · exact oneLine _ _ _ inRest

/-! ### The two scans compared -/

variable {key after : Bytes}

theorem opensToken_key (absent : closeBracket ∉ key) :
    opensToken (openBracket :: (key ++ closeBracket :: after)) = true ↔ lf ∉ key := by
  rw [opensToken_cons]
  constructor
  · rintro ⟨-, closed⟩ member
    obtain ⟨line, rest, rfl, noLF⟩ := eq_append_cons_of_mem member
    have stops : ∀ b ∈ line, decide (b ≠ lf) = true := by
      intro b inside
      simp only [decide_eq_true_eq]
      rintro rfl
      exact noLF inside
    rw [append_assoc, cons_append, takeWhile_append_of_pos stops,
      takeWhile_cons_of_neg (by simp), append_nil] at closed
    exact absent (mem_append_left _ closed)
  · intro noLF
    refine ⟨rfl, ?_⟩
    have goesOn : ∀ b ∈ key, decide (b ≠ lf) = true := by
      intro b inside
      simp only [decide_eq_true_eq]
      rintro rfl
      exact noLF inside
    rw [takeWhile_append_of_pos goesOn, takeWhile_cons_of_pos (by decide)]
    simp

theorem token_noLF (text : Bytes) : ∀ key ∈ keys closeBracket opensToken text, lf ∉ key := by
  induction text using scan_induction opensToken_closes with
  | nil => simp
  | skip b rest notOpen ih => rwa [keys_skip notOpen]
  | key b key after absent isOpen ih =>
    rw [keys_key absent isOpen, forall_mem_cons]
    obtain rfl := (opensToken_cons.mp isOpen).1
    exact ⟨(opensToken_key absent).mp isOpen, ih⟩

theorem token_place (member : key ∈ keys closeBracket opensToken text) :
    ∃ before after, text = before ++ openBracket :: (key ++ closeBracket :: after) := by
  induction text using scan_induction opensToken_closes with
  | nil => simp at member
  | skip b rest notOpen ih =>
    rw [keys_skip notOpen] at member
    obtain ⟨before, after, rfl⟩ := ih member
    exact ⟨b :: before, after, rfl⟩
  | key b first rest absent isOpen ih =>
    rw [keys_key absent isOpen, mem_cons] at member
    obtain rfl := (opensToken_cons.mp isOpen).1
    rcases member with rfl | later
    · exact ⟨[], rest, rfl⟩
    · obtain ⟨before, after, rfl⟩ := ih later
      exact ⟨openBracket :: (first ++ closeBracket :: before), after, by simp⟩

/-- Either scan has something to read here. -/
def opensEither (text : Bytes) : Bool :=
  opensToken text || opensAuth text

theorem opensEither_closes (b : UInt8) (rest : Bytes)
    (isOpen : opensEither (b :: rest) = true) : closeBracket ∈ rest := by
  rw [opensEither, Bool.or_eq_true] at isOpen
  rcases isOpen with isToken | isAuth
  · exact opensToken_closes b rest isToken
  · exact opensAuth_closes b rest isAuth

/-- What the two scans do where one of them opens a key. -/
inductive KeyCase (key after : Bytes) : Prop where
  /-- Both take the key. -/
  | both (spelled : spelledAuth key = true) (noLF : lf ∉ key)
      (auth : keys closeBracket opensAuth (openBracket :: (key ++ closeBracket :: after)) =
        key :: keys closeBracket opensAuth after)
      (token : keys closeBracket opensToken (openBracket :: (key ++ closeBracket :: after)) =
        key :: keys closeBracket opensToken after)
  /-- The renderer takes the key, which does not start with the keyword. -/
  | other (spelled : spelledAuth key = false) (noLF : lf ∉ key)
      (auth : keys closeBracket opensAuth (openBracket :: (key ++ closeBracket :: after)) =
        keys closeBracket opensAuth (key ++ closeBracket :: after))
      (token : keys closeBracket opensToken (openBracket :: (key ++ closeBracket :: after)) =
        key :: keys closeBracket opensToken after)
  /-- The bracket is closed on a later line. -/
  | later (spelled : spelledAuth key = true) (hasLF : lf ∈ key)
      (auth : keys closeBracket opensAuth (openBracket :: (key ++ closeBracket :: after)) =
        key :: keys closeBracket opensAuth after)
      (token : keys closeBracket opensToken (openBracket :: (key ++ closeBracket :: after)) =
        keys closeBracket opensToken (key ++ closeBracket :: after))

theorem keyCase (absent : closeBracket ∉ key)
    (isOpen : opensEither (b :: (key ++ closeBracket :: after)) = true) :
    b = openBracket ∧ KeyCase key after := by
  have bracket : b = openBracket := by
    rw [opensEither, Bool.or_eq_true, opensAuth, Bool.and_eq_true] at isOpen
    rcases isOpen with isToken | isAuth
    · exact (opensToken_cons.mp isToken).1
    · exact (startsAuth_cons.mp isAuth.1).1
  subst bracket
  refine ⟨rfl, ?_⟩
  cases spelled : spelledAuth key with
  | true =>
    have auth := keys_key absent (opensAuth_key spelled after)
    by_cases noLF : lf ∉ key
    · exact .both spelled noLF auth (keys_key absent ((opensToken_key absent).mpr noLF))
    · refine .later spelled (not_not.mp noLF) auth (keys_skip ?_)
      exact Bool.eq_false_iff.mpr fun isToken => noLF ((opensToken_key absent).mp isToken)
  | false =>
    have notAuth : opensAuth (openBracket :: (key ++ closeBracket :: after)) = false := by
      apply opensAuth_of_not_starts
      rw [Bool.eq_false_iff]
      intro starts
      have keyword := (startsAuth_cons.mp starts).2
      rw [spelledAuth_append_close, spelled] at keyword
      cases keyword
    rw [opensEither, notAuth, Bool.or_false] at isOpen
    exact .other spelled ((opensToken_key absent).mp isOpen) (keys_skip notAuth)
      (keys_key absent isOpen)

/-- A key on several lines that is on one line when it is trimmed hides no token. -/
theorem keys_token_later (absent : closeBracket ∉ key)
    (spelled : spelledAuth key = true) (hasLF : lf ∈ key) (trimmed : lf ∉ trimSpace key) :
    keys closeBracket opensToken (key ++ closeBracket :: after) =
      keys closeBracket opensToken after := by
  obtain ⟨line, blank, rfl⟩ := append_of_mem hasLF
  refine keys_token_through absent fun member => trimmed ?_
  -- A bracket behind the line end would keep the line end from being trimmed.
  obtain ⟨between, rest, rfl⟩ := append_of_mem member
  have start := solidStart_of_spelledAuth spelled
  have whole : line ++ lf :: (between ++ openBracket :: rest) =
      (line ++ lf :: between) ++ openBracket :: rest := by
    simp
  have startsShort : SolidStart ((line ++ lf :: between) ++ [openBracket]) := by
    cases line with
    | nil => cases (by decide : isSpace lf.toNat = true).symm.trans start.2
    | cons b line => exact start
  rw [whole, trimSpace_append_cons startsShort (by decide) (by decide)]
  simp

/-- The scan for `[authentication` finds no fewer keys than the renderer has, unless it
took one over a line end. -/
theorem length_token_le (trimmed : ∀ key ∈ keys closeBracket opensAuth text, lf ∉ trimSpace key) :
    ((keys closeBracket opensToken text).filter spelledAuth).length ≤
      (keys closeBracket opensAuth text).length := by
  induction text using scan_induction opensEither_closes with
  | nil => simp
  | skip b rest notOpen ih =>
    rw [opensEither, Bool.or_eq_false_iff] at notOpen
    rw [keys_skip notOpen.2] at trimmed ⊢
    rw [keys_skip notOpen.1]
    exact ih trimmed
  | key b key after absent isOpen ih =>
    obtain ⟨rfl, keyCase⟩ := keyCase absent isOpen
    cases keyCase with
    | both spelled noLF auth token =>
      rw [auth, forall_mem_cons] at trimmed
      rw [auth, token, filter_cons_of_pos spelled, length_cons, length_cons]
      exact Nat.succ_le_succ (ih trimmed.2)
    | other spelled noLF auth token =>
      rw [token, filter_cons_of_neg (by simp [spelled])]
      rw [auth] at trimmed ⊢
      rcases keys_auth_through absent after with ⟨_, same⟩ | ⟨_, inner, one⟩
      · rw [same] at trimmed ⊢
        exact ih trimmed
      · rw [one, forall_mem_cons] at trimmed
        rw [one, length_cons]
        exact Nat.le_succ_of_le (ih trimmed.2)
    | later spelled hasLF auth token =>
      rw [auth, forall_mem_cons] at trimmed
      rw [auth, token, keys_token_later absent spelled hasLF trimmed.1, length_cons]
      exact Nat.le_succ_of_le (ih trimmed.2)

theorem extra_key :
    extra :: (keys closeBracket opensAuth text).map trimSpace ≠
      (keys closeBracket opensToken text).filter spelledAuth := by
  intro same
  have trimmed : ∀ key ∈ keys closeBracket opensAuth text, lf ∉ trimSpace key := by
    intro key member
    have isToken : trimSpace key ∈ (keys closeBracket opensToken text).filter spelledAuth := by
      rw [← same]
      exact mem_cons_of_mem _ (mem_map_of_mem member)
    exact token_noLF text _ (mem_filter.mp isToken).1
  have fewer := length_token_le trimmed
  rw [← same, length_cons, length_map] at fewer
  omega

/-- A token that both scans read alike: one with the keyword has no white space at its
end, another has no `[authentication` inside. -/
def Unambiguous (key : Bytes) : Prop :=
  if spelledAuth key then trimSpace key = key else hasOpening key = false

instance (key : Bytes) : Decidable (Unambiguous key) :=
  inferInstanceAs (Decidable (if spelledAuth key then trimSpace key = key
    else hasOpening key = false))

/-- The two scans give the same keys exactly when every `[authentication` is closed on
its line and every token is unambiguous. -/
theorem keys_agree_iff (text : Bytes) :
    (keys closeBracket opensAuth text).map trimSpace =
        (keys closeBracket opensToken text).filter spelledAuth ↔
      OneLineMarks text ∧ ∀ key ∈ keys closeBracket opensToken text, Unambiguous key := by
  induction text using scan_induction opensEither_closes with
  | nil => simp [OneLineMarks, Marked.not_nil]
  | skip b rest notOpen ih =>
    rw [opensEither, Bool.or_eq_false_iff] at notOpen
    rw [keys_skip notOpen.2, keys_skip notOpen.1, oneLineMarks_skip notOpen.2]
    exact ih
  | key b key after absent isOpen ih =>
    obtain ⟨rfl, keyCase⟩ := keyCase absent isOpen
    have frontAbsent : closeBracket ∉ openBracket :: key := by
      simpa using ⟨by decide, absent⟩
    cases keyCase with
    | both spelled noLF auth token =>
      have marks := oneLineMarks_key frontAbsent (by simpa using ⟨by decide, noLF⟩) after
      rw [cons_append] at marks
      rw [auth, token, filter_cons_of_pos spelled, map_cons, List.cons.injEq,
        ih, marks, forall_mem_cons, Unambiguous, if_pos spelled]
      exact and_left_comm
    | other spelled noLF auth token =>
      have marks := oneLineMarks_key frontAbsent (by simpa using ⟨by decide, noLF⟩) after
      rw [cons_append] at marks
      rw [auth, token, filter_cons_of_neg (by simp [spelled]), marks,
        forall_mem_cons, Unambiguous, if_neg (by simp [spelled])]
      rcases keys_auth_through absent after with ⟨plain, same⟩ | ⟨inside, inner, one⟩
      · rw [same, ih, plain]
        simp
      · rw [one, map_cons, inside]
        simp [extra_key]
    | later spelled hasLF auth token =>
      rw [auth, token, map_cons]
      constructor
      · intro same
        have isToken : trimSpace key ∈ (keys closeBracket opensToken
            (key ++ closeBracket :: after)).filter spelledAuth := by
          rw [← same]
          exact mem_cons_self
        have trimmed := token_noLF _ _ (mem_filter.mp isToken).1
        rw [keys_token_later absent spelled hasLF trimmed] at same
        exact absurd same extra_key
      · rintro ⟨oneLine, -⟩
        have marked : Marked (openBracket :: (key ++ closeBracket :: after)) []
            (openBracket :: key) after :=
          ⟨rfl, startsAuth_cons.mpr ⟨rfl, spelled⟩, frontAbsent⟩
        exact absurd (mem_cons_of_mem _ hasLF) (oneLine _ _ _ marked)

end Gossipper.Engine
