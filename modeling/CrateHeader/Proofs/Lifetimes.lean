import CrateHeader.Proofs.TypeReading
import Mathlib.Data.List.ReduceOption

/-!
# Lifetimes in type texts

Lifetimes are left out when a text is cut into tokens, but the commas behind them are not. So a lifetime behind an
ampersand changes nothing, and neither does one that is alone between angle brackets, while a comma that separates
lifetimes from what follows is refused where an argument is expected. `Expr.read_lifetimes` says this of every way
of putting lifetimes into a text.
-/

namespace CrateHeader

namespace TyToken

/-- What a text consists of: its tokens, and `none` for every lifetime. -/
def lexemes (s : List Char) : Option (List (Option TyToken)) :=
  if s = [] then some []
  else
    match h : readOne? (Text.trimLeft s) with
    | none => none
    | some (token, rest) =>
      have : rest.length < s.length :=
        Nat.lt_of_lt_of_le (length_readOne? h) (length_dropWhile_le _ s)
      (lexemes rest).map (token :: ·)
termination_by s.length

/-- The tokens of a text are its lexemes without the lifetimes. -/
theorem toOption_readAll (s : List Char) : (readAll s).toOption = (lexemes s).map List.reduceOption := by
  induction s using lexemes.induct with
  | case1 => simp [readAll, lexemes, Except.toOption]
  | case2 s hne hnone =>
    have hlexemes : lexemes s = none := by
      rw [lexemes, if_neg hne]
      split <;> simp_all
    have hread : readAll s = .error s.length := by
      rw [readAll, if_neg hne]
      split <;> simp_all
    rw [hlexemes, hread]
    rfl
  | case3 s hne token rest hone hlt ih =>
    have hlexemes : lexemes s = (lexemes rest).map (token :: ·) := by
      rw [lexemes, if_neg hne]
      split <;> simp_all
    have hread : (readAll s).toOption = (readAll rest).toOption.map (token.toList ++ ·) := by
      rw [readAll, if_neg hne]
      split
      · simp_all
      · next heq =>
        obtain ⟨rfl, rfl⟩ := Prod.mk.inj (Option.some.inj (hone.symm.trans heq))
        dsimp only
        cases readAll rest <;> rfl
    rw [hread, hlexemes, ih, Option.map_map, Option.map_map]
    cases token <;> rfl

theorem readAll_of_lexemes {s : List Char} {row : List (Option TyToken)} (h : lexemes s = some row) :
    readAll s = .ok row.reduceOption := by
  have heq := toOption_readAll s
  rw [h] at heq
  cases hread : readAll s with
  | error left =>
    rw [hread] at heq
    cases heq
  | ok tokens =>
    rw [hread] at heq
    exact congrArg Except.ok (Option.some.inj heq)

end TyToken

namespace Expr

variable {ts us rest : List TyToken} {e : Expr} {n : Nat}

/-! ### Putting lifetimes in -/

/-- Lifetimes in front of generic arguments, each with a comma behind it. -/
def leading : Nat → List (Option TyToken)
  | 0 => []
  | k + 1 => none :: some (.mark .comma) :: leading k

@[simp]
theorem reduceOption_leading (k : Nat) : (leading k).reduceOption = List.replicate k (.mark .comma) := by
  induction k with
  | zero => rfl
  | succ k ih => simp [leading, ih, List.replicate_succ]

@[simp]
theorem reduceOption_map_some (ts : List TyToken) : (ts.map some).reduceOption = ts := by
  induction ts with
  | nil => rfl
  | cons t ts ih => simp [ih]

/-- The second row is the first one with lifetimes where they may stand, behind the ampersand of a reference and in
front of generic arguments, and with that many commas to separate them. A path without arguments may be given
lifetimes for arguments, the last of which has no comma behind it. -/
inductive Adorned : Form → List TyToken → List (Option TyToken) → Nat → Prop
  | pointer {ts : List TyToken} {row : List (Option TyToken)} {n : Nat} {qualifier : String}
      (hqualifier : qualifier = "const" ∨ qualifier = "mut") (h : Adorned .type ts row n) :
      Adorned .type (.mark .star :: .word qualifier :: ts)
        (some (.mark .star) :: some (.word qualifier) :: row) n
  | exclusive {ts : List TyToken} {row : List (Option TyToken)} {n : Nat} (lifetimes : Nat)
      (h : Adorned .type ts row n) :
      Adorned .type (.mark .amp :: .word "mut" :: ts)
        (some (.mark .amp) :: (List.replicate lifetimes none ++ some (.word "mut") :: row)) n
  | shared {ts : List TyToken} {row : List (Option TyToken)} {n : Nat} (lifetimes : Nat)
      (hmut : ∀ us, ts ≠ .word "mut" :: us) (h : Adorned .type ts row n) :
      Adorned .type (.mark .amp :: ts) (some (.mark .amp) :: (List.replicate lifetimes none ++ row)) n
  | array {ts length : List TyToken} {row : List (Option TyToken)} {n : Nat} (hne : length ≠ [])
      (hbracket : .mark .closeBracket ∉ length) (h : Adorned .type ts row n) :
      Adorned .type (.mark .openBracket :: (ts ++ .mark .semicolon :: (length ++ [.mark .closeBracket])))
        (some (.mark .openBracket) :: (row ++ some (.mark .semicolon) ::
          (length.map some ++ [some (.mark .closeBracket)]))) n
  | unit : Adorned .type [.mark .openParen, .mark .closeParen]
      [some (.mark .openParen), some (.mark .closeParen)] 0
  | parens {ts : List TyToken} {row : List (Option TyToken)} {n : Nat} (h : Adorned .type ts row n) :
      Adorned .type (.mark .openParen :: (ts ++ [.mark .closeParen]))
        (some (.mark .openParen) :: (row ++ [some (.mark .closeParen)])) n
  | never : Adorned .type [.mark .bang] [some (.mark .bang)] 0
  | function {ts : List TyToken} {row : List (Option TyToken)} {n : Nat} (isUnsafe : Bool)
      (convention : Option (Option String)) (h : Adorned .parameters ts row n) :
      Adorned .type (functionWords isUnsafe convention ++ .mark .openParen :: ts)
        ((functionWords isUnsafe convention).map some ++ some (.mark .openParen) :: row) n
  | functionTo {ts us : List TyToken} {row ret : List (Option TyToken)} {n m : Nat} (isUnsafe : Bool)
      (convention : Option (Option String)) (h : Adorned .parameters ts row n) (hret : Adorned .type us ret m) :
      Adorned .type (functionWords isUnsafe convention ++ .mark .openParen :: (ts ++ .mark .arrow :: us))
        ((functionWords isUnsafe convention).map some ++ some (.mark .openParen) ::
          (row ++ some (.mark .arrow) :: ret)) (n + m)
  | path {first : String} (hfirst : startsPath first = true) (names : List TyToken) :
      Adorned .type (.word first :: segmentTokens names) (some (.word first) :: (segmentTokens names).map some) 0
  | lifetimesOnly {brackets : List TyToken} {first : String} (hfirst : startsPath first = true)
      (names : List TyToken) (hbrackets : brackets = [] ∨ brackets = [.mark .less, .mark .greater]) (k : Nat) :
      Adorned .type (.word first :: (segmentTokens names ++ brackets))
        (some (.word first) :: ((segmentTokens names).map some ++ some (.mark .less) ::
          (leading k ++ [none, some (.mark .greater)]))) k
  | generic {ts : List TyToken} {row : List (Option TyToken)} {n : Nat} {first : String}
      (hfirst : startsPath first = true) (names : List TyToken) (k : Nat) (h : Adorned .arguments ts row n) :
      Adorned .type (.word first :: (segmentTokens names ++ .mark .less :: ts))
        (some (.word first) :: ((segmentTokens names).map some ++ some (.mark .less) :: (leading k ++ row))) (n + k)
  | noParameters : Adorned .parameters [.mark .closeParen] [some (.mark .closeParen)] 0
  | lastParameter {ts : List TyToken} {row : List (Option TyToken)} {n : Nat} {label : Option TyToken}
      (hlabel : isLabel label = true) (h : Adorned .type ts row n) :
      Adorned .parameters (labelTokens label ++ (ts ++ [.mark .closeParen]))
        ((labelTokens label).map some ++ (row ++ [some (.mark .closeParen)])) n
  | nextParameter {ts us : List TyToken} {row others : List (Option TyToken)} {n m : Nat} {label : Option TyToken}
      (hlabel : isLabel label = true) (h : Adorned .type ts row n) (hnext : Adorned .parameters us others m) :
      Adorned .parameters (labelTokens label ++ (ts ++ .mark .comma :: us))
        ((labelTokens label).map some ++ (row ++ some (.mark .comma) :: others)) (n + m)
  | noArguments : Adorned .arguments [.mark .greater] [some (.mark .greater)] 0
  | lastArgument {ts : List TyToken} {row : List (Option TyToken)} {n : Nat} (h : Adorned .type ts row n) :
      Adorned .arguments (ts ++ [.mark .greater]) (row ++ [some (.mark .greater)]) n
  | nextArgument {ts us : List TyToken} {row others : List (Option TyToken)} {n m : Nat} (h : Adorned .type ts row n)
      (hnext : Adorned .arguments us others m) :
      Adorned .arguments (ts ++ .mark .comma :: us) (row ++ some (.mark .comma) :: others) (n + m)

variable {f : Form} {row : List (Option TyToken)}

/-- No lifetime stands in front. -/
theorem Adorned.exists_head (h : Adorned f ts row n) (hf : f = .type) :
    ∃ t us vs, ts = t :: us ∧ row.reduceOption = t :: vs := by
  cases h with
  | function isUnsafe convention _ | functionTo isUnsafe convention _ _ =>
    simp only [List.reduceOption_append, reduceOption_map_some]
    rcases isUnsafe with - | - <;> rcases convention with - | - | s <;> exact ⟨_, _, _, rfl, rfl⟩
  | noParameters | lastParameter | nextParameter | noArguments | lastArgument | nextArgument => cases hf
  | _ => exact ⟨_, _, _, rfl, List.reduceOption_cons_of_some _ _⟩

theorem Adorned.ne_mut (h : Adorned .type ts row n) (hmut : ∀ us, ts ≠ .word "mut" :: us) :
    (∀ rest us, ts ++ rest ≠ .word "mut" :: us) ∧ ∀ rest us, row.reduceOption ++ rest ≠ .word "mut" :: us := by
  obtain ⟨t, us, vs, rfl, hrow⟩ := h.exists_head rfl
  have ht : t ≠ .word "mut" := by
    rintro rfl
    exact hmut us rfl
  rw [hrow]
  simp [ht]

/-- The row is read as the plain one is, but for the commas that were put in. -/
theorem Adorned.yields (h : Adorned f ts row n) : ∃ a : f.Value, Yields f ts a 0 ∧ Yields f row.reduceOption a n := by
  -- one rule for both rows: what it says with no comma is that the plain one is read
  induction h with
  | pointer hqualifier _ ih =>
    obtain ⟨target, hplain, hrow⟩ := ih
    exact ⟨_, hplain.pointer hqualifier, hrow.pointer hqualifier⟩
  | exclusive lifetimes _ ih =>
    obtain ⟨target, hplain, hrow⟩ := ih
    exact ⟨_, hplain.exclusive, by simpa [List.reduceOption_append] using hrow.exclusive⟩
  | shared lifetimes hmut h ih =>
    obtain ⟨target, hplain, hrow⟩ := ih
    obtain ⟨hplainMut, hrowMut⟩ := h.ne_mut hmut
    exact ⟨_, hplain.shared hplainMut, by simpa [List.reduceOption_append] using hrow.shared hrowMut⟩
  | array hne hbracket _ ih =>
    obtain ⟨element, hplain, hrow⟩ := ih
    exact ⟨_, hplain.array hne hbracket, by simpa [List.reduceOption_append] using hrow.array hne hbracket⟩
  | unit => exact ⟨_, .unit, .unit⟩
  | parens _ ih =>
    obtain ⟨inner, hplain, hrow⟩ := ih
    exact ⟨_, hplain.parens, by simpa [List.reduceOption_append] using hrow.parens⟩
  | never => exact ⟨_, .never, .never⟩
  | function isUnsafe convention _ ih =>
    obtain ⟨params, hplain, hrow⟩ := ih
    exact ⟨_, hplain.function isUnsafe convention,
      by simpa [List.reduceOption_append] using hrow.function isUnsafe convention⟩
  | functionTo isUnsafe convention _ _ ih ihret =>
    obtain ⟨params, hplain, hrow⟩ := ih
    obtain ⟨ret, hplainRet, hrowRet⟩ := ihret
    exact ⟨_, hplain.functionTo isUnsafe convention hplainRet,
      by simpa [List.reduceOption_append] using hrow.functionTo isUnsafe convention hrowRet⟩
  | path hfirst names => exact ⟨_, .path hfirst names, by simpa using Yields.path hfirst names⟩
  | lifetimesOnly hfirst names hbrackets k =>
    have hrow := Yields.generic hfirst names (Yields.noArguments.commas k)
    refine ⟨_, ?_, by simpa [List.reduceOption_append] using hrow⟩
    rcases hbrackets with rfl | rfl
    · simpa using Yields.path hfirst names
    · exact .generic hfirst names .noArguments
  | generic hfirst names k _ ih =>
    obtain ⟨args, hplain, hrow⟩ := ih
    exact ⟨_, .generic hfirst names hplain,
      by simpa [List.reduceOption_append] using Yields.generic hfirst names (hrow.commas k)⟩
  | noParameters => exact ⟨_, .noParameters, .noParameters⟩
  | lastParameter hlabel _ ih =>
    obtain ⟨e, hplain, hrow⟩ := ih
    exact ⟨_, hplain.lastParameter hlabel, by simpa [List.reduceOption_append] using hrow.lastParameter hlabel⟩
  | nextParameter hlabel _ _ ih ihnext =>
    obtain ⟨e, hplain, hrow⟩ := ih
    obtain ⟨params, hplainNext, hrowNext⟩ := ihnext
    exact ⟨_, hplain.nextParameter hlabel hplainNext,
      by simpa [List.reduceOption_append] using hrow.nextParameter hlabel hrowNext⟩
  | noArguments => exact ⟨_, .noArguments, .noArguments⟩
  | lastArgument _ ih =>
    obtain ⟨e, hplain, hrow⟩ := ih
    exact ⟨_, hplain.lastArgument, by simpa [List.reduceOption_append] using hrow.lastArgument⟩
  | nextArgument _ _ ih ihnext =>
    obtain ⟨e, hplain, hrow⟩ := ih
    obtain ⟨es, hplainNext, hrowNext⟩ := ihnext
    exact ⟨_, hplain.nextArgument hplainNext,
      by simpa [List.reduceOption_append] using hrow.nextArgument hrowNext⟩

/-- Whatever was read has its places for lifetimes, all of which may be left empty. -/
theorem Reads.exists_adorned {a : f.Value} (h : Reads f ts a rest) :
    ∃ used, ts = used ++ rest ∧ Adorned f used (used.map some) 0 := by
  induction h with
  | pointer hqualifier _ ih =>
    obtain ⟨used, rfl, hused⟩ := ih
    exact ⟨_, rfl, .pointer hqualifier hused⟩
  | exclusive _ ih =>
    obtain ⟨used, rfl, hused⟩ := ih
    exact ⟨_, rfl, .exclusive 0 hused⟩
  | shared hmut _ ih =>
    obtain ⟨used, rfl, hused⟩ := ih
    refine ⟨.mark .amp :: used, rfl, .shared 0 ?_ hused⟩
    rintro us rfl
    exact hmut _ rfl
  | @array _ us _ _ _ hne hbracket ih =>
    obtain ⟨used, rfl, hused⟩ := ih
    exact ⟨.mark .openBracket :: (used ++ .mark .semicolon :: (us ++ [.mark .closeBracket])), by simp,
      by simpa using Adorned.array hne hbracket hused⟩
  | unit => exact ⟨_, rfl, .unit⟩
  | parens _ ih =>
    obtain ⟨used, rfl, hused⟩ := ih
    exact ⟨.mark .openParen :: (used ++ [.mark .closeParen]), by simp, by simpa using Adorned.parens hused⟩
  | never => exact ⟨_, rfl, .never⟩
  | function isUnsafe convention _ _ ih =>
    obtain ⟨used, rfl, hused⟩ := ih
    exact ⟨functionWords isUnsafe convention ++ .mark .openParen :: used, by simp,
      by simpa using Adorned.function isUnsafe convention hused⟩
  | functionTo isUnsafe convention _ _ ih ihret =>
    obtain ⟨ret, rfl, hret⟩ := ihret
    obtain ⟨used, rfl, hused⟩ := ih
    exact ⟨functionWords isUnsafe convention ++ .mark .openParen :: (used ++ .mark .arrow :: ret), by simp,
      by simpa using Adorned.functionTo isUnsafe convention hused hret⟩
  | path hfirst names => exact ⟨_, rfl, .path hfirst names⟩
  | @generic _ _ first _ hfirst names _ ih =>
    obtain ⟨used, rfl, hused⟩ := ih
    exact ⟨.word first :: (segmentTokens names ++ .mark .less :: used), by simp,
      by simpa [leading] using Adorned.generic hfirst names 0 hused⟩
  | noParameters => exact ⟨_, rfl, .noParameters⟩
  | @lastParameter _ _ label _ hlabel _ ih =>
    obtain ⟨used, rfl, hused⟩ := ih
    exact ⟨labelTokens label ++ (used ++ [.mark .closeParen]), by simp,
      by simpa using Adorned.lastParameter hlabel hused⟩
  | @nextParameter _ _ _ label _ _ hlabel _ _ ih ihnext =>
    obtain ⟨others, rfl, hothers⟩ := ihnext
    obtain ⟨used, rfl, hused⟩ := ih
    exact ⟨labelTokens label ++ (used ++ .mark .comma :: others), by simp,
      by simpa using Adorned.nextParameter hlabel hused hothers⟩
  | noArguments => exact ⟨_, rfl, .noArguments⟩
  | lastArgument _ ih =>
    obtain ⟨used, rfl, hused⟩ := ih
    exact ⟨used ++ [.mark .greater], by simp, by simpa using Adorned.lastArgument hused⟩
  | nextArgument _ _ ih ihnext =>
    obtain ⟨others, rfl, hothers⟩ := ihnext
    obtain ⟨used, rfl, hused⟩ := ih
    exact ⟨used ++ .mark .comma :: others, by simp, by simpa using Adorned.nextArgument hused hothers⟩

/-- The lexemes of a type text. -/
def lexemes (text : String) : Option (List (Option TyToken)) := TyToken.lexemes (Text.trimRight text.toList)

theorem read_of_takes {text : String} (hrow : lexemes text = some row) (h : Takes (readType row.reduceOption) e [] n) :
    (n = 0 → read text = .ok e) ∧ (0 < n → read text = .error (.noTypeName ",")) := by
  have htokens := TyToken.readAll_of_lexemes hrow
  refine ⟨fun hzero => read_of_gives htokens (h.gives hzero), fun hpos => ?_⟩
  simp only [read, htokens, ofTokens, h.refuses hpos]

/-- A type text without lifetimes that is read has its places for lifetimes. With lifetimes in any of them it is read
as the same expression if no comma was put in, and refused at the first one otherwise. -/
theorem read_lifetimes {plain : String} {tokens : List TyToken} (hplain : lexemes plain = some (tokens.map some))
    (hread : read plain = .ok e) :
    Adorned .type tokens (tokens.map some) 0 ∧
      ∀ text row commas, lexemes text = some row → Adorned .type tokens row commas →
        (commas = 0 → read text = .ok e) ∧ (0 < commas → read text = .error (.noTypeName ",")) := by
  obtain ⟨cut, htokens, hgives⟩ := read_ok hread
  obtain rfl : cut = tokens := by simpa [TyToken.readAll_of_lexemes hplain] using htokens.symm
  obtain ⟨used, hused, hadorned⟩ := (reads_of_gives (f := .type) hgives).exists_adorned
  rw [List.append_nil] at hused
  refine ⟨hused ▸ hadorned, fun text row commas hrow h => ?_⟩
  obtain ⟨a, hwhole, hrows⟩ := h.yields
  obtain ⟨hlt, heq⟩ := hgives
  obtain ⟨hshort, hsame⟩ := hwhole.all.gives rfl
  cases heq.symm.trans hsame
  exact read_of_takes hrow hrows.all

/-- A table of borrowed rows with a callback, whose lifetimes are written out. -/
theorem read_lifetimes_table :
    read "Table<&Row, fn(cell: &mut Cell) -> Id>" = .ok (.path "Table" [.pointer (.path "Row" []) false true,
      .function [(some "cell", .pointer (.path "Cell" []) true true)] (some (.path "Id" []))]) ∧
    read "Table<&'a Row, fn(cell: &'b mut Cell<'c>) -> Id>" = .ok (.path "Table" [.pointer (.path "Row" []) false true,
      .function [(some "cell", .pointer (.path "Cell" []) true true)] (some (.path "Id" []))]) ∧
    read "Table<'a, &'a Row, fn(cell: &'b mut Cell<'c>) -> Id>" = .error (.noTypeName ",") := by
  have hplain : lexemes "Table<&Row, fn(cell: &mut Cell) -> Id>" = some (([.word "Table", .mark .less, .mark .amp,
      .word "Row", .mark .comma, .word "fn", .mark .openParen, .word "cell", .mark .colon, .mark .amp, .word "mut",
      .word "Cell", .mark .closeParen, .mark .arrow, .word "Id", .mark .greater] : List TyToken).map some) := by cbv
  have hread : read "Table<&Row, fn(cell: &mut Cell) -> Id>" = .ok (.path "Table" [.pointer (.path "Row" []) false true,
      .function [(some "cell", .pointer (.path "Cell" []) true true)] (some (.path "Id" []))]) := by cbv
  have hword : ∀ w ∈ ["Table", "Row", "Cell", "Id"], startsPath w = true := by decide
  have hlabel : isLabel (some (.word "cell")) = true := rfl
  have hrow := Adorned.shared 1 (by simp) (.path (hword "Row" (by decide)) [])
  have hcell := Adorned.exclusive 1 (.lifetimesOnly (hword "Cell" (by decide)) [] (.inl rfl) 0)
  have hcallback := Adorned.functionTo false none (.lastParameter hlabel hcell) (.path (hword "Id" (by decide)) [])
  have hargs := Adorned.nextArgument hrow (.lastArgument hcallback)
  obtain ⟨-, hall⟩ := read_lifetimes hplain hread
  refine ⟨hread, ?_, ?_⟩
  · have htable := Adorned.generic (hword "Table" (by decide)) [] 0 hargs
    exact (hall _ _ 0 (by cbv) htable).1 rfl
  · have htable := Adorned.generic (hword "Table" (by decide)) [] 1 hargs
    exact (hall _ _ 1 (by cbv) htable).2 Nat.one_pos

/-- A type with arguments is read, and refused with a lifetime in front of them. -/
theorem read_lifetimes_comma :
    lexemes "Name<A>" = some (([.word "Name", .mark .less, .word "A", .mark .greater] : List TyToken).map some) ∧
    read "Name<A>" = .ok (.path "Name" [.path "A" []]) ∧
    (∃ row commas, lexemes "Name<'a, A>" = some row ∧
      Adorned .type [.word "Name", .mark .less, .word "A", .mark .greater] row commas) ∧
    read "Name<'a, A>" = .error (.noTypeName ",") := by
  have hword : ∀ w ∈ ["Name", "A"], startsPath w = true := by decide
  have hargs := Adorned.lastArgument (.path (hword "A" (by decide)) [])
  have hname := Adorned.generic (hword "Name" (by decide)) [] 1 hargs
  refine ⟨by cbv, by cbv, ⟨_, _, ?_, hname⟩, by cbv⟩
  cbv

end Expr

end CrateHeader
