/-
Module: Gossipper.Engine.AuthTokens
Purpose: Where `extractAuthKeywordOptions` finds the `[authentication]` tokens of a
  template, and where the renderer expands them.  The first searches a lower-cased copy
  of the whole text and trims what it finds; the second goes line by line and takes a
  key as it stands.
Trusted boundary: none
Main exports: authTokenKeys, TokensFound, KeywordsInStep, Placed, auth_tokens_found_iff
-/
import Gossipper.Engine.Auth
import Gossipper.Engine.AuthScan

namespace Gossipper.Engine

open Go Template Brackets List Option

/-! ### What the loop finds -/

/-- The places of `[authentication` in a text: none, or a first one. -/
theorem index_startsAuth (text : Bytes) :
    index (text.map lowerASCII) (ascii "[authentication") = none ∧
        (∀ front rest, text = front ++ rest → startsAuth rest = false) ∨
      ∃ front rest, text = front ++ openBracket :: rest ∧
        index (text.map lowerASCII) (ascii "[authentication") = some front.length ∧
        spelledAuth rest = true ∧
        ∀ before behind, text = before ++ behind → before.length < front.length →
          startsAuth behind = false := by
  have nonempty : ascii "[authentication" ≠ [] := by decide
  have behind : ∀ i, hasPrefix ((text.map lowerASCII).drop i) (ascii "[authentication") =
      startsAuth (text.drop i) := by
    intro i
    rw [startsAuth, map_drop]
  cases found : index (text.map lowerASCII) (ascii "[authentication") with
  | none =>
    refine .inl ⟨rfl, fun front rest whole => ?_⟩
    have nowhere := (index_eq_none_iff nonempty).mp found front.length
    rwa [behind, whole, drop_left] at nowhere
  | some i =>
    obtain ⟨here, first⟩ := (index_eq_some_iff nonempty).mp found
    rw [behind] at here
    have whole := (take_append_drop i text).symm
    cases tail : text.drop i with
    | nil =>
      rw [tail] at here
      cases startsAuth_nil.symm.trans here
    | cons b rest =>
      rw [tail] at here whole
      obtain ⟨rfl, spelled⟩ := startsAuth_cons.mp here
      have inside : i ≤ text.length := by
        by_contra outside
        rw [drop_eq_nil_of_le (by omega)] at tail
        cases tail
      have length : (text.take i).length = i := by
        rw [length_take, Nat.min_eq_left inside]
      refine .inr ⟨text.take i, rest, whole, by rw [length], spelled, ?_⟩
      intro before back split less
      have notHere := first before.length (by omega)
      rwa [behind, split, drop_left] at notHere

theorem keys_auth_nil (noMark : ∀ before key after, ¬ Marked text before key after) :
    keys closeBracket opensAuth text = [] := by
  rw [← append_nil text, keys_plain, Brackets.keys_nil]
  rintro b rest ⟨front, whole⟩
  rw [append_nil, Bool.eq_false_iff]
  intro isOpen
  rw [opensAuth, Bool.and_eq_true, decide_eq_true_eq] at isOpen
  obtain ⟨key, after, split, absent⟩ := eq_append_cons_of_mem isOpen.2
  refine noMark front key after ⟨by rw [← whole, split], ?_, absent⟩
  rw [← startsAuth_append_close key after, ← split, isOpen.1]

theorem no_mark (nowhere : ∀ front rest, text = front ++ rest → startsAuth rest = true →
      closeBracket ∉ rest) : ∀ before key after, ¬ Marked text before key after := by
  intro before key after marked
  refine nowhere before _ marked.whole ?_ (by simp)
  rw [startsAuth_append_close, marked.starts]

/-- The first key is the one at the first mark. -/
theorem keys_auth_first (whole : text = front ++ openBracket :: (key ++ closeBracket :: rest))
    (absent : closeBracket ∉ key) (spelled : spelledAuth key = true)
    (first : ∀ before behind, text = before ++ behind → before.length < front.length →
      startsAuth behind = false) :
    keys closeBracket opensAuth text = key :: keys closeBracket opensAuth rest := by
  rw [whole, keys_plain, keys_key absent (opensAuth_key spelled rest)]
  rintro b more ⟨before, frontEq⟩
  apply opensAuth_of_not_starts
  apply first before
  · rw [whole, ← frontEq]
    simp
  · rw [← frontEq]
    simp

theorem drop_behind_key {raw front key rest : Bytes} {k : Nat}
    (whole : raw.drop k = front ++ openBracket :: (key ++ closeBracket :: rest)) :
    raw.drop (k + (key.length + front.length + 2)) = rest := by
  have shape : raw.drop k = (front ++ openBracket :: (key ++ [closeBracket])) ++ rest := by
    simp [whole]
  have length : (front ++ openBracket :: (key ++ [closeBracket])).length =
      key.length + front.length + 2 := by
    simp only [length_append, length_cons, length_nil]
    omega
  rw [← drop_drop, shape, ← length, drop_left]

section Loop

variable [CaseTables]

/-- The keyword in the lower-cased copy is where the text has it. -/
def CopyAgrees (raw : Bytes) : Prop :=
  ∀ i, hasPrefix ((toLower raw).drop i) (ascii "[authentication") = startsAuth (raw.drop i)

/-- The closing brackets of the marks behind `k` are places of the lower-cased copy. -/
def MarksWithin (raw : Bytes) (k : Nat) : Prop :=
  ∀ before key after, Marked (raw.drop k) before key after →
    k + before.length + key.length < (toLower raw).length

variable {k : Nat}

/-- The marks behind `k`: the first one, and those behind its closing bracket. -/
theorem marksWithin_key {raw front key rest : Bytes}
    (whole : raw.drop k = front ++ openBracket :: (key ++ closeBracket :: rest))
    (absent : closeBracket ∉ key) (spelled : spelledAuth key = true)
    (first : ∀ before behind, raw.drop k = before ++ behind → before.length < front.length →
      startsAuth behind = false) :
    MarksWithin raw k ↔
      k + front.length + (key.length + 1) < (toLower raw).length ∧
        MarksWithin raw (k + (key.length + front.length + 2)) := by
  have behind := drop_behind_key whole
  have frontAbsent : closeBracket ∉ openBracket :: key := by
    simpa using ⟨by decide, absent⟩
  constructor
  · intro within
    constructor
    · have marked : Marked (raw.drop k) front (openBracket :: key) rest :=
        ⟨whole, startsAuth_cons.mpr ⟨rfl, spelled⟩, frontAbsent⟩
      exact within _ _ _ marked
    · intro before later after marked
      rw [behind] at marked
      have longer := marked.extend (front ++ openBracket :: (key ++ [closeBracket]))
      have shape : front ++ openBracket :: (key ++ [closeBracket]) ++ rest = raw.drop k := by
        simp [whole]
      rw [shape] at longer
      have bound := within _ _ _ longer
      simp only [length_append, length_cons, length_nil] at bound
      omega
  · rintro ⟨bound, within⟩ before later after marked
    have notBefore : front.length ≤ before.length := by
      by_contra less
      have none := first before _ marked.whole (by omega)
      rw [startsAuth_append_close, marked.starts] at none
      cases none
    have split := whole.symm.trans marked.whole
    obtain ⟨more, rfl⟩ : ∃ more, before = front ++ more :=
      ⟨before.drop front.length, by
        have isFront := congrArg (List.take front.length) split
        rw [take_left, take_append_of_le_length notBefore] at isFront
        conv_lhs => rw [← take_append_drop front.length before, ← isFront]⟩
    rw [append_assoc, append_cancel_left_eq, ← cons_append] at split
    have inner : Marked (openBracket :: key ++ closeBracket :: rest) more later after :=
      ⟨split, marked.starts, marked.unclosed⟩
    rw [length_append]
    rcases inner.split frontAbsent with same | ⟨between, rfl, inRest⟩
    · have lengths := congrArg List.length same
      rw [length_append, length_cons] at lengths
      omega
    · rw [← behind] at inRest
      have later := within _ _ _ inRest
      simp only [length_append, length_cons] at later ⊢
      omega

/-- What the loop has to give for the text behind `k`: the keys of the scan, trimmed, or
a panic when a closing bracket is no place of the lower-cased copy. -/
def FindsKeys (raw : Bytes) (k : Nat) (result : Option (List AuthKeywordOptions)) : Prop :=
  (MarksWithin raw k → result.map (fun options => options.map (·.tokenKey)) =
    some ((keys closeBracket opensAuth (raw.drop k)).map trimSpace)) ∧
  (¬ MarksWithin raw k → result = none)

theorem findsKeys_nil (noMark : ∀ before key after, ¬ Marked (raw.drop k) before key after) :
    FindsKeys raw k (some []) := by
  constructor
  · intro _
    rw [keys_auth_nil noMark]
    rfl
  · intro outside
    exact absurd (fun before key after marked => absurd marked (noMark before key after)) outside

/-- One round of the loop, at a mark. -/
theorem findsKeys_cons {raw front key rest username password : Bytes}
    {result : Option (List AuthKeywordOptions)}
    (whole : raw.drop k = front ++ openBracket :: (key ++ closeBracket :: rest))
    (absent : closeBracket ∉ key) (spelled : spelledAuth key = true)
    (first : ∀ before behind, raw.drop k = before ++ behind → before.length < front.length →
      startsAuth behind = false)
    (later : FindsKeys raw (k + (key.length + front.length + 2)) result) :
    FindsKeys raw k
      (if ((toLower raw).drop k).length < key.length + front.length + 2 then none
        else result.map fun options => ⟨trimSpace key, username, password⟩ :: options) := by
  have step := marksWithin_key whole absent spelled first
  have keysEq := keys_auth_first whole absent spelled first
  rw [← drop_behind_key whole] at keysEq
  rw [FindsKeys, step, keysEq, map_cons, length_drop]
  by_cases fits : k + front.length + (key.length + 1) < (toLower raw).length
  · rw [if_neg (by omega)]
    constructor
    · rintro ⟨-, within⟩
      obtain ⟨options, loop, optionKeys⟩ := map_eq_some_iff.mp (later.1 within)
      rw [loop, map_some, map_some, map_cons, optionKeys]
    · intro outside
      rw [later.2 fun within => outside ⟨fits, within⟩, map_none]
  · rw [if_pos (by omega)]
    exact ⟨fun within => absurd within.1 fits, fun _ => rfl⟩

theorem authOptionsFrom_spec (agrees : CopyAgrees raw) (enough : (raw.drop k).length < fuel) :
    FindsKeys raw k (authOptionsFrom fuel ((toLower raw).drop k) (raw.drop k)) := by
  induction fuel generalizing k with
  | zero => exact absurd enough (Nat.not_lt_zero _)
  | succ fuel ih =>
    have sameIndex : index ((toLower raw).drop k) (ascii "[authentication") =
        index ((raw.drop k).map lowerASCII) (ascii "[authentication") := by
      refine index_congr (by decide) fun i => ?_
      rw [drop_drop, agrees, startsAuth, ← map_drop, drop_drop]
    rw [authOptionsFrom, sameIndex]
    rcases index_startsAuth (raw.drop k) with
      ⟨noIndex, nowhere⟩ | ⟨front, tail, whole, found, spelled, first⟩
    · rw [noIndex]
      refine findsKeys_nil (no_mark fun front rest split starts => ?_)
      cases (nowhere front rest split).symm.trans starts
    · have rest : (raw.drop k).drop (front.length + 1) = tail := by
        rw [whole, ← drop_drop, drop_left]
        rfl
      have long : ¬ (raw.drop k).length < front.length + 1 := by
        rw [whole, length_append, length_cons]
        omega
      rw [found]
      simp only [if_neg long, rest]
      by_cases closed : closeBracket ∈ tail
      · obtain ⟨key, after, rfl, absent⟩ := eq_append_cons_of_mem closed
        rw [spelledAuth_append_close] at spelled
        rw [indexByte_append absent]
        simp only [take_left, drop_drop]
        refine findsKeys_cons whole absent spelled first (ih ?_)
        have length := congrArg List.length whole
        simp only [length_drop, length_append, length_cons] at length enough ⊢
        omega
      · -- The first mark is not closed, and neither is a later one.
        rw [indexByte_eq_none_iff.mpr closed]
        refine findsKeys_nil (no_mark fun before behind split starts member => ?_)
        have notBefore : front.length ≤ before.length := by
          by_contra less
          cases (first before behind split (by omega)).symm.trans starts
        have inTail : behind <:+ openBracket :: tail :=
          suffix_of_suffix_length_le ⟨before, split.symm⟩ ⟨front, whole.symm⟩ (by
            have lengths := congrArg List.length (split.symm.trans whole)
            simp only [length_append, length_cons] at lengths ⊢
            omega)
        rcases mem_cons.mp (inTail.subset member) with isOpen | isTail
        · cases isOpen
        · exact closed isTail

end Loop

/-! ### What the renderer puts in place of a token -/

theorem hasPrefix_ne (starts : hasPrefix text start = true)
    (shorter : other.length ≤ start.length) (differs : hasPrefix start other = false) :
    hasPrefix text other = false := by
  rw [Bool.eq_false_iff]
  intro isOther
  rw [hasPrefix_iff] at starts isOther
  have nested := prefix_of_prefix_length_le isOther starts shorter
  rw [← hasPrefix_iff, differs] at nested
  cases nested

private theorem parseArithmeticFrom_base
    (parsed : parseArithmeticFrom front rest = some (base, n)) :
    ∃ b tail, front.reverse ++ rest = base ++ b :: tail ∧ (b = plus ∨ b = minus) := by
  induction rest generalizing front with
  | nil => cases parsed
  | cons b rest ih =>
    have goesOn : parseArithmeticFrom (b :: front) rest = some (base, n) →
        ∃ c tail, front.reverse ++ b :: rest = base ++ c :: tail ∧ (c = plus ∨ c = minus) := by
      intro later
      have found := ih later
      rwa [reverse_cons, append_assoc, singleton_append] at found
    rw [parseArithmeticFrom] at parsed
    split at parsed
    · rename_i sign
      split at parsed
      · cases parsed
        exact ⟨b, rest, rfl, sign⟩
      · exact goesOn parsed
    · exact goesOn parsed

theorem parseArithmetic_base (key : Bytes) :
    (parseArithmetic key).1 = key ∨
      ∃ b tail, key = (parseArithmetic key).1 ++ b :: tail ∧ (b = plus ∨ b = minus) := by
  cases key with
  | nil => exact .inl rfl
  | cons b rest =>
    rw [parseArithmetic]
    cases parsed : parseArithmeticFrom [b] rest with
    | none => exact .inl rfl
    | some result =>
      right
      exact parseArithmeticFrom_base (n := result.2) (by rw [parsed])

section Renderer

variable [CaseTables]

/-- A key that starts with the keyword, in any letter case. -/
def isAuthKey (key : Bytes) : Bool :=
  hasPrefix (toLower key) (ascii "authentication")

/-- The keys that the renderer looks up for the `[authentication]` tokens of a template,
in order. -/
def authTokenKeys (raw : Bytes) : List Bytes :=
  (tokenKeys raw).filter isAuthKey

variable {key : Bytes}

theorem isAuthKey_base (isAuth : isAuthKey key = true) :
    isAuthKey (parseArithmetic key).1 = true := by
  rcases parseArithmetic_base key with same | ⟨b, tail, whole, sign⟩
  · rwa [same]
  · have small : b.toNat < 0x80 := by rcases sign with rfl | rfl <;> decide
    have absent : lowerASCII b ∉ ascii "authentication" := by
      rcases sign with rfl | rfl <;> decide
    rw [isAuthKey, whole, toLower_append (by simpa using small), toLower_cons_ascii small,
      hasPrefix_append_cons absent] at isAuth
    exact isAuth

/-- None of the keywords that the renderer knows starts with this one. -/
theorem switch_auth (isAuth : isAuthKey base = true) (env : Environment)
    (c : Context) (delta : Int) (otherwise : Except TokenError (Bytes × Bool)) :
    switch (toLower base) (keywordsStrict env c delta) otherwise = otherwise := by
  have names : ((keywordsStrict env c delta).map Prod.fst).all
      (fun names => names.all fun name => !hasPrefix (ascii name) (ascii "authentication")) =
        true := by
    rfl
  generalize keywordsStrict env c delta = table at names
  induction table with
  | nil => rfl
  | cons entry rest ih =>
    rw [map_cons, all_cons, Bool.and_eq_true] at names
    have other : ¬ (entry.1.any fun name => ascii name = toLower base) = true := by
      rw [List.any_eq_true]
      rintro ⟨name, member, same⟩
      have differs := List.all_eq_true.mp names.1 name member
      rw [decide_eq_true_eq] at same
      rw [same, ← isAuthKey, isAuth] at differs
      cases differs
    rw [switch, if_neg other, ih names.2]

/-- The renderer looks an `[authentication]` token up under its key as it stands. -/
theorem resolveTokenStrict_auth (env : Environment) (c : Context)
    (isAuth : isAuthKey (tokenKey token) = true) :
    resolveTokenStrict env c token =
      match c.extraKeywords.lookup (tokenKey token) with 
      | some v => .ok (v, false)
      | none => .error (.unsupportedKeyword token) := by
  have base := isAuthKey_base isAuth
  have notVariable : hasPrefix (parseArithmetic (tokenKey token)).1 [dollar] = false := by
    rw [Bool.eq_false_iff, Ne, hasPrefix_iff]
    rintro ⟨rest, whole⟩
    rw [← whole, isAuthKey, singleton_append, toLower_cons_ascii (by decide), hasPrefix_iff]
      at base
    have word : ascii "authentication" = 0x61 :: ascii "uthentication" := by decide
    rw [word, cons_prefix_cons] at base
    exact absurd base.1 (by decide)
  rw [resolveTokenStrict]
  simp only [hasPrefix_ne isAuth (by decide) (by decide : hasPrefix _ (ascii "file ") = false),
    hasPrefix_ne isAuth (by decide) (by decide : hasPrefix _ (ascii "field") = false),
    hasPrefix_ne isAuth (by decide) (by decide : hasPrefix _ (ascii "fill") = false),
    hasPrefix_ne isAuth (by decide) (by decide : hasPrefix _ (ascii "last_") = false),
    Bool.false_eq_true, if_false, switch_auth base, resolveOtherStrict]
  rw [notVariable]
  cases c.extraKeywords.lookup (tokenKey token) <;> rfl

/-- A header is built for each of the options. -/
theorem buildAuthHeaders_lookup [PrintTable]
    (built : buildAuthHeaders e env outgoing c n options before = .ok headers)
    (asked : key ∈ options.map (·.tokenKey) ∨ (before.lookup key).isSome = true) :
    (headers.lookup key).isSome = true := by
  induction options generalizing n before with
  | nil =>
    cases built
    exact asked.resolve_left (by simp)
  | cons option rest ih =>
    simp only [buildAuthHeaders] at built
    split at built
    · cases built
    · rename_i header _
      refine ih built ?_
      rw [map_cons, mem_cons] at asked
      rcases asked with (rfl | inRest) | earlier
      · exact .inr (by simp)
      · exact .inl inRest
      · right
        rw [lookup_cons]
        split
        · rfl
        · exact earlier

/-- Every `[authentication]` token of the template is replaced by a header that was
built for its key. -/
def Replaced [PrintTable] (raw : Bytes) (options : List AuthKeywordOptions) : Prop :=
  ∀ (e : AuthConfig) (env : Environment) (outgoing : Bytes) (c : Context) (headers : Values),
    buildAuthHeaders e env outgoing c 0 options [] = .ok headers →
    ∀ line ∈ splitLines raw, ∀ token, Piece.token token ∈ pieces line →
      isAuthKey (tokenKey token) = true →
      ∃ header, (tokenKey token, header) ∈ headers ∧
        resolveTokenStrict env { c with extraKeywords := headers ++ c.extraKeywords } token =
          .ok (header, false)

theorem replaced_of_keys [PrintTable]
    (sameKeys : options.map (·.tokenKey) = authTokenKeys raw) : Replaced raw options := by
  intro e env outgoing c headers built line isLine token isPiece isAuth
  have isKey : tokenKey token ∈ authTokenKeys raw := by
    refine mem_filter.mpr ⟨mem_flatMap.mpr ⟨line, isLine, ?_⟩, isAuth⟩
    exact List.mem_map_of_mem (mem_filterMap.mpr ⟨_, isPiece, rfl⟩)
  rw [← sameKeys] at isKey
  obtain ⟨header, found⟩ :=
    isSome_iff_exists.mp (buildAuthHeaders_lookup built (.inl isKey))
  obtain ⟨_, _, split, _⟩ := lookup_eq_some_iff.mp found
  refine ⟨header, by simp [split], ?_⟩
  rw [resolveTokenStrict_auth env _ isAuth, lookup_append, found]
  rfl

end Renderer

/-! ### The result -/

section Result

variable [CaseTables]

/-- No character before the end of a `[authentication` of the lower-cased copy changes
its number of bytes in lower case.  A text that the first test turns down is not
lower-cased. -/
def KeywordsInStep (raw : Bytes) : Prop :=
  containsFoldCI raw (ascii "[authentication") = true → InStep raw (ascii "[authentication")

/-- The keywords that are found are those that the renderer looks up, and each token is
replaced by the header built for it. -/
def TokensFound [PrintTable] (raw : Bytes) : Prop :=
  ∃ options, extractAuthKeywordOptions raw = some options ∧
    options.map (·.tokenKey) = authTokenKeys raw ∧ Replaced raw options

/-- A template whose `[authentication]` tokens both readers take alike. -/
structure Placed (raw : Bytes) : Prop where
  /-- Each `[authentication` is closed on its line, if it is closed at all. -/
  oneLine : OneLineMarks raw
  /-- Its closing bracket is a place of the lower-cased copy too. -/
  within : ∀ before key after, Marked raw before key after →
    before.length + key.length < (toLower raw).length
  /-- No other token has a `[authentication` inside, and none has white space before its
  closing bracket. -/
  unambiguous : ∀ key ∈ tokenKeys raw, Unambiguous key
  /-- The keyword is in ASCII letters. -/
  spelled : ∀ key ∈ tokenKeys raw, isAuthKey key = true → spelledAuth key = true

variable {raw : Bytes}

theorem marksWithin_zero :
    MarksWithin raw 0 ↔ ∀ before key after, Marked raw before key after →
      before.length + key.length < (toLower raw).length := by
  simp [MarksWithin, drop_zero]

theorem copyAgrees_of_inStep (inStep : InStep raw (ascii "[authentication")) :
    CopyAgrees raw := by
  intro i
  rw [hasPrefix_drop_toLower inStep (by decide) (by decide +kernel), startsAuth, map_drop]

/-- The first test lets every text through that has the keyword in ASCII letters. -/
theorem containsFoldCI_of_startsAuth (starts : startsAuth rest = true) :
    containsFoldCI (front ++ rest) (ascii "[authentication") = true := by
  rw [startsAuth, hasPrefix_iff] at starts
  have long := starts.length_le
  rw [length_map] at long
  have window : (rest.take 15).map lowerASCII = ascii "[authentication" := by
    rw [map_take]
    exact (prefix_iff_eq_take.mp starts).symm
  have small : (rest.take 15).all (·.toNat < 0x80) = true := by
    rw [List.all_eq_true]
    intro b member
    have lowered : lowerASCII b ∈ ascii "[authentication" :=
      window ▸ List.mem_map_of_mem member
    have bound : ∀ c ∈ ascii "[authentication", c.toNat < 0x80 := by decide +kernel
    exact decide_eq_true (lowerASCII_small_iff.mp (bound _ lowered))
  have folds : equalFold (rest.take 15) (ascii "[authentication") = true := by
    rw [equalFold_iff, foldKey_of_ascii small, foldKey_of_ascii (by decide)]
    have values : (rest.take 15).map (fun b => asciiLower b.toNat) =
        ((rest.take 15).map lowerASCII).map UInt8.toNat := by
      rw [List.map_map]
      refine map_congr_left fun b member => ?_
      have isSmall := of_decide_eq_true (List.all_eq_true.mp small b member)
      rw [Function.comp_apply, lowerASCII, UInt8.toNat_ofNat',
        Nat.mod_eq_of_lt (Nat.lt_trans (asciiLower_small isSmall) (by decide))]
    rw [values, window]
    decide
  rw [containsFoldCI, List.any_eq_true]
  refine ⟨front.length, mem_range.mpr ?_, ?_⟩
  · rw [length_append]
    have length : (ascii "[authentication").length = 15 := by decide
    omega
  · rw [drop_left]
    exact folds 
/-- A text in step has the keyword in ASCII letters. -/
theorem spelled_of_inStep (inStep : InStep raw (ascii "[authentication"))
    (member : key ∈ tokenKeys raw) (isAuth : isAuthKey key = true) : spelledAuth key = true := by
  rw [tokenKeys_eq] at member
  obtain ⟨before, after, whole⟩ := token_place member
  have word : ascii "[authentication" = openBracket :: ascii "authentication" := by decide
  have found : hasPrefix (toLower (openBracket :: (key ++ closeBracket :: after)))
      (ascii "[authentication") = true := by
    have small : lowerASCII openBracket = openBracket := by decide
    rw [toLower_cons_ascii (by decide), small, hasPrefix_iff, word, cons_prefix_cons,
      toLower_append (by simp; decide)]
    exact ⟨rfl, (hasPrefix_iff.mp isAuth).trans (prefix_append _ _)⟩
  have boundary : ∀ b ∈ (openBracket :: (key ++ closeBracket :: after)).head?,
      b.toNat < 0x80 := by
    simp only [head?_cons, mem_some_iff, forall_eq']
    decide
  have place := inStep.place (by decide) whole found boundary
  have agrees := copyAgrees_of_inStep inStep before.length
  rw [whole, toLower_append boundary, ← place.1, drop_left, found, place.1, drop_left]
    at agrees
  have spelled := (startsAuth_cons.mp agrees.symm).2
  rwa [spelledAuth_append_close] at spelled 
/-- With the keyword in ASCII letters the renderer's keys are those of the scan. -/
theorem authTokenKeys_eq
    (spelled : ∀ key ∈ tokenKeys raw, isAuthKey key = true → spelledAuth key = true) :
    authTokenKeys raw = (keys closeBracket opensToken raw).filter spelledAuth := by
  rw [authTokenKeys, ← tokenKeys_eq]
  refine filter_congr fun key member => ?_
  rw [Bool.eq_iff_iff]
  exact ⟨spelled key member, hasPrefix_toLower (by decide +kernel)⟩

/-- The options that are found, for a text that the first test lets through. -/
theorem extract_spec (inStep : InStep raw (ascii "[authentication"))
    (tested : containsFoldCI raw (ascii "[authentication") = true) :
    FindsKeys raw 0 (extractAuthKeywordOptions raw) := by
  have loop := authOptionsFrom_spec (k := 0) (copyAgrees_of_inStep inStep)
    (Nat.lt_succ_self raw.length)
  rw [extractAuthKeywordOptions, tested, Bool.not_true, if_neg Bool.false_ne_true]
  rwa [drop_zero, drop_zero] at loop

variable [PrintTable]

theorem tokensFound_iff :
    TokensFound raw ↔
      (extractAuthKeywordOptions raw).map (fun options => options.map (·.tokenKey)) =
        some (authTokenKeys raw) := by
  rw [map_eq_some_iff]
  constructor
  · rintro ⟨options, extracted, sameKeys, _⟩
    exact ⟨options, extracted, sameKeys⟩
  · rintro ⟨options, extracted, sameKeys⟩
    exact ⟨options, extracted, sameKeys, replaced_of_keys sameKeys⟩

/-- A text that is lower-cased. -/
private theorem found_iff_tested (inStep : InStep raw (ascii "[authentication"))
    (tested : containsFoldCI raw (ascii "[authentication") = true) :
    TokensFound raw ↔ Placed raw := by
  have spelled : ∀ key ∈ tokenKeys raw, isAuthKey key = true → spelledAuth key = true :=
    fun key member isAuth => spelled_of_inStep inStep member isAuth
  obtain ⟨found, panics⟩ := extract_spec inStep tested
  rw [drop_zero] at found
  have agree := keys_agree_iff raw
  rw [← authTokenKeys_eq spelled, ← tokenKeys_eq] at agree
  rw [tokensFound_iff]
  constructor
  · intro sameKeys
    have within : MarksWithin raw 0 := by
      by_contra outside
      rw [panics outside] at sameKeys
      cases sameKeys
    rw [found within, Option.some.injEq, agree] at sameKeys
    exact ⟨sameKeys.1, marksWithin_zero.mp within, sameKeys.2, spelled⟩
  · intro placed
    rw [found (marksWithin_zero.mpr placed.within),
      agree.mpr ⟨placed.oneLine, placed.unambiguous⟩]

/-- A text that the first test turns down: it has no `[authentication` in ASCII letters. -/
private theorem found_iff_turnedDown
    (turnedDown : containsFoldCI raw (ascii "[authentication") = false) :
    TokensFound raw ↔ Placed raw := by
  have nowhere : ∀ front rest, raw = front ++ rest → startsAuth rest = false := by
    rintro front rest rfl
    rw [Bool.eq_false_iff]
    intro starts
    cases (containsFoldCI_of_startsAuth starts).symm.trans turnedDown
  have noMark : ∀ before key after, ¬ Marked raw before key after :=
    no_mark fun front rest whole starts => by cases (nowhere front rest whole).symm.trans starts
  have noSpelled : ∀ key ∈ tokenKeys raw, spelledAuth key = false := by
    intro key member
    rw [tokenKeys_eq] at member
    obtain ⟨before, after, whole⟩ := token_place member
    rw [Bool.eq_false_iff]
    intro spelled
    have none := nowhere before _ whole
    rw [Bool.eq_false_iff] at none
    exact none (startsAuth_cons.mpr ⟨rfl, by rw [spelledAuth_append_close, spelled]⟩)
  have noTokens : (keys closeBracket opensToken raw).filter spelledAuth = [] := by
    rw [← tokenKeys_eq, filter_eq_nil_iff]
    intro key member
    rw [noSpelled key member]
    exact Bool.false_ne_true
  rw [tokensFound_iff, extractAuthKeywordOptions, turnedDown, Bool.not_false, if_pos rfl,
    map_some, map_nil, Option.some.injEq]
  constructor
  · intro none
    have noAuth := filter_eq_nil_iff.mp none.symm
    have agree := (keys_agree_iff raw).mp (by rw [keys_auth_nil noMark, noTokens, map_nil])
    rw [← tokenKeys_eq] at agree
    exact {
      oneLine := agree.1
      within := fun before key after marked => absurd marked (noMark before key after)
      unambiguous := agree.2
      spelled := fun key member isAuth => absurd isAuth (noAuth key member) }
  · intro placed
    rw [authTokenKeys_eq placed.spelled, noTokens]

/-- The `[authentication]` tokens are found where the renderer expands them exactly when
they are placed so that both readers take them alike. -/
theorem auth_tokens_found_iff {raw : Bytes} (inStep : KeywordsInStep raw) :
    TokensFound raw ↔ Placed raw := by
  cases tested : containsFoldCI raw (ascii "[authentication") with
  | true => exact found_iff_tested (inStep tested) tested
  | false => exact found_iff_turnedDown tested

end Result

section Concrete

attribute [local instance] CaseTables.asciiOnly PrintTable.asciiOnly

/-- A letter of two bytes, and a token with a parameter. -/
def accentedTemplate : Bytes :=
  [0xC3, 0xA9] ++ ascii ": [Authentication username=joe]"

theorem accented_token_found :
    KeywordsInStep accentedTemplate ∧ Placed accentedTemplate ∧ TokensFound accentedTemplate := by
  have aligned : alignedLength accentedTemplate = accentedTemplate.length := by decide
  have sameLength : (toLower accentedTemplate).length = accentedTemplate.length := by decide
  have inStep : KeywordsInStep accentedTemplate := by
    intro _ i found
    have long := (hasPrefix_iff.mp found).length_le
    rw [length_drop, sameLength] at long
    have positive : 0 < (ascii "[authentication").length := by decide
    omega
  have placed : Placed accentedTemplate := {
    oneLine := by
      intro before key after marked member
      have inside : lf ∈ accentedTemplate := by
        rw [marked.whole]
        simp [member]
      exact absurd inside (by decide)
    within := by
      intro before key after marked
      have length := congrArg List.length marked.whole
      simp only [length_append, length_cons] at length
      omega
    unambiguous := by decide
    spelled := by decide }
  exact ⟨inStep, placed, (auth_tokens_found_iff inStep).mpr placed⟩

/-- A blank before the closing bracket: the header is stored under the trimmed key, and
the renderer asks for the key with the blank.  Twenty bytes that are no UTF-8 in front of
a token: the lower-cased copy is longer, and its index is out of range of the text. -/
theorem blank_token_missed :
    ¬ TokensFound (ascii "[authentication ]") ∧
      extractAuthKeywordOptions (List.replicate 20 0xFF ++ ascii "[authentication]") = none := by
  refine ⟨?_, by decide⟩
  rw [tokensFound_iff]
  decide

end Concrete

end Gossipper.Engine
