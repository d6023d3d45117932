import CrateHeader.Proofs.TypeReading

/-!
# What a type is read from

The names and array lengths of a type expression that was read are texts of tokens. The first segment of a path
is looked at, so is the length of an array, which must not be empty. But whatever token stands behind a double
colon is taken for the name of the path, and whatever token stands in front of a colon for that of a parameter,
unless a type or the end of the list starts with it. `Expr.read_pieces` says that this is all there is, and that
every such token is taken.
-/

namespace CrateHeader

/-- A text that the reader takes from tokens. -/
inductive Piece where
  | name (s : String)
  | parameter (s : String)
  | length (s : String)
  deriving DecidableEq

namespace Piece

/-- A path and a parameter are called by identifiers, and an array has a length. -/
def IsWellFormed : Piece → Prop
  | name s => isWord s = true
  | parameter s => isWord s = true
  | length s => s ≠ ""

/-- Is a token taken for a parameter's name when a colon follows it? -/
def takesParameter (t : TyToken) : Bool :=
  Expr.isParameterName t && t != .mark .closeParen && t != .word "_"

/-- Where in a row of tokens a text has been taken from. -/
def IsTaken (tokens : List TyToken) : Piece → Prop
  | name s => (.word s ∈ tokens ∧ isWord s = true) ∨ ∃ t, [.mark .scope, t] <:+: tokens ∧ s = t.text
  | parameter s => ∃ t, [t, .mark .colon] <:+: tokens ∧ takesParameter t = true ∧ s = t.text
  | length s => ∃ us, us ≠ [] ∧ us <:+: tokens ∧ .mark .closeBracket ∉ us ∧ s = String.join (us.map TyToken.text)

variable {p : Piece} {ts tokens : List TyToken}

theorem IsTaken.mono (h : p.IsTaken ts) (hsub : ts <:+: tokens) : p.IsTaken tokens := by
  cases p with
  | name s =>
    refine h.imp (fun ⟨hmem, hword⟩ => ⟨hsub.subset hmem, hword⟩) fun ⟨t, ht, hs⟩ => ⟨t, ht.trans hsub, hs⟩
  | parameter s =>
    obtain ⟨t, ht, hname, hs⟩ := h
    exact ⟨t, ht.trans hsub, hname, hs⟩
  | length s =>
    obtain ⟨us, hne, hus, hbracket, hs⟩ := h
    exact ⟨us, hne, hus.trans hsub, hbracket, hs⟩

/-- What is taken from tokens that are identifiers where they are taken for names. -/
theorem IsTaken.isWellFormed (h : p.IsTaken tokens) (hread : ∀ t ∈ tokens, t.IsRead)
    (hscope : ∀ t, [.mark .scope, t] <:+: tokens → isWord t.text = true)
    (hcolon : ∀ t, [t, .mark .colon] <:+: tokens → takesParameter t = true → isWord t.text = true) :
    p.IsWellFormed := by
  cases p with
  | name s =>
    rcases h with ⟨_, hword⟩ | ⟨t, ht, rfl⟩
    · exact hword
    · exact hscope t ht
  | parameter s =>
    obtain ⟨t, ht, hname, rfl⟩ := h
    exact hcolon t ht hname
  | length s =>
    obtain ⟨us, hne, hus, hbracket, rfl⟩ := h
    exact (TyToken.isLength_join hne (fun t ht => hread t (hus.subset ht)) hbracket).1

end Piece

namespace Expr

variable {ts us rest left : List TyToken} {e element target ret : Expr} {es args : List Expr}
  {params : List (Option String × Expr)} {name length : String}

mutual
/-- The names and lengths in an expression. -/
def pieces : Expr → List Piece
  | path name args => .name name :: piecesAll args
  | pointer target _ _ => target.pieces
  | array element length => .length length :: element.pieces
  | function params ret => piecesParams params ++ piecesResult ret
  | unit => []
  | never => []

def piecesAll : List Expr → List Piece
  | [] => []
  | e :: rest => e.pieces ++ piecesAll rest

def piecesParams : List (Option String × Expr) → List Piece
  | [] => []
  | (name, e) :: rest => name.toList.map .parameter ++ e.pieces ++ piecesParams rest

def piecesResult : Option Expr → List Piece
  | none => []
  | some e => e.pieces
end

theorem isWord_of_isRead {w : String} (h : (TyToken.word w).IsRead)
    (hstart : (w.toList.head?.map Text.isNameStart).getD false = true) : isWord w = true := by
  have hchars := h.2
  unfold isWord
  cases hw : w.toList with
  | nil => simp [hw] at hstart
  | cons c cs =>
    rw [hw] at hstart hchars
    simp only [Bool.and_eq_true, List.all_eq_true]
    exact ⟨hstart, fun d hd => hchars d (List.mem_cons_of_mem c hd)⟩

/-- The name of a path is its first segment or stands behind a double colon. -/
theorem lastName_cases (first : String) (names : List TyToken) :
    lastName first names = first ∨ ∃ t, [.mark .scope, t] <:+: segmentTokens names ∧ lastName first names = t.text := by
  induction names generalizing first with
  | nil => exact .inl rfl
  | cons t names ih =>
    refine .inr ?_
    rcases ih t.text with hsame | ⟨u, hu, hlast⟩
    · exact ⟨t, ⟨[], segmentTokens names, rfl⟩, hsame⟩
    · exact ⟨u, hu.trans ((List.suffix_cons _ _).trans (List.suffix_cons _ _)).isInfix, hlast⟩

theorem isTaken_lastName {first : String} (hfirst : startsPath first = true) (hread : (TyToken.word first).IsRead)
    (names : List TyToken) :
    (Piece.name (lastName first names)).IsTaken (.word first :: (segmentTokens names ++ rest)) := by
  rcases lastName_cases first names with hsame | ⟨t, ht, hlast⟩
  · rw [hsame]
    exact .inl ⟨List.mem_cons_self, isWord_of_isRead hread (Bool.and_eq_true_iff.1 hfirst).1⟩
  · exact .inr ⟨t, ht.trans ((List.prefix_append _ _).isInfix.trans (List.suffix_cons _ _).isInfix), hlast⟩

/-- A parameter's name stands in front of a colon. -/
theorem isTaken_labelName {label : Option TyToken} (hlabel : isLabel label = true) :
    ∀ p ∈ (labelName label).toList.map Piece.parameter, p.IsTaken (labelTokens label ++ ts) := by
  cases label with
  | none => exact fun p hp => nomatch hp
  | some t =>
    intro p hp
    obtain ⟨hblank, rfl⟩ : t ≠ .word "_" ∧ p = .parameter t.text := by
      rw [labelName] at hp
      split at hp
      · cases hp
      · next hblank => exact ⟨hblank, by simpa using hp⟩
    obtain ⟨hname, hclose⟩ : isParameterName t = true ∧ t ≠ .mark .closeParen := by simpa [isLabel] using hlabel
    exact ⟨t, ⟨[], ts, rfl⟩, by simp [Piece.takesParameter, hname, hclose, hblank], rfl⟩

/-! ### From tokens to pieces -/

def Form.pieces : (f : Form) → f.Value → List Piece
  | type => Expr.pieces
  | parameters => piecesParams
  | arguments => piecesAll

/-- In tokens that were read all pieces are taken from in front of the last ones, or from these. -/
def Holds (ts rest : List TyToken) (ps : List Piece) : Prop :=
  (∀ t ∈ ts, t.IsRead) → rest <:+ ts ∧ ∀ p ∈ ps, p.IsTaken ts

variable {ps : List Piece}

theorem Holds.of_suffix (h : Holds us rest ps) (hsub : us <:+ ts) : Holds ts rest ps := by
  intro hread
  obtain ⟨hrest, htaken⟩ := h fun t ht => hread t (hsub.subset ht)
  exact ⟨hrest.trans hsub, fun p hp => (htaken p hp).mono hsub.isInfix⟩

theorem Holds.drop (h : Holds ts us ps) (hsub : rest <:+ us) : Holds ts rest ps := fun hread =>
  ⟨hsub.trans (h hread).1, (h hread).2⟩

/-- One part behind another. -/
theorem Holds.append {qs : List Piece} (h : Holds ts us ps) (hnext : Holds us rest qs) :
    Holds ts rest (ps ++ qs) := by
  intro hread
  obtain ⟨hus, hps⟩ := h hread
  obtain ⟨hrest, hqs⟩ := hnext.of_suffix hus hread
  exact ⟨hrest, List.forall_mem_append.2 ⟨hps, hqs⟩⟩

theorem Reads.holds {f : Form} {a : f.Value} (h : Reads f ts a rest) : Holds ts rest (f.pieces a) := by
  induction h with
  | pointer _ _ ih | exclusive _ ih => exact ih.of_suffix ((List.suffix_cons _ _).trans (List.suffix_cons _ _))
  | shared _ _ ih => exact ih.of_suffix (List.suffix_cons _ _)
  | @array _ us rest _ _ hne hbracket ih =>
    intro hread
    obtain ⟨hsub, hpieces⟩ := ih.of_suffix (List.suffix_cons _ _) hread
    have hrest : rest <:+ .mark .semicolon :: (us ++ .mark .closeBracket :: rest) :=
      ((List.suffix_cons _ _).trans (List.suffix_append _ _)).trans (List.suffix_cons _ _)
    have hlength : us <:+: .mark .semicolon :: (us ++ .mark .closeBracket :: rest) :=
      (List.prefix_append _ _).isInfix.trans (List.suffix_cons _ _).isInfix
    exact ⟨hrest.trans hsub, List.forall_mem_cons.2 ⟨⟨us, hne, hlength.trans hsub.isInfix, hbracket, rfl⟩, hpieces⟩⟩
  | unit => exact fun _ => ⟨(List.suffix_cons _ _).trans (List.suffix_cons _ _), fun p hp => nomatch hp⟩
  | parens _ ih => exact (ih.of_suffix (List.suffix_cons _ _)).drop (List.suffix_cons _ _)
  | never => exact fun _ => ⟨List.suffix_cons _ _, fun p hp => nomatch hp⟩
  | function isUnsafe convention _ _ ih =>
    have hparams := ih.of_suffix ((List.suffix_cons (.mark .openParen) _).trans
      (List.suffix_append (functionWords isUnsafe convention) _))
    simpa [Form.pieces, pieces, piecesResult] using hparams
  | functionTo isUnsafe convention _ _ ih ihret =>
    have hparams := ih.of_suffix ((List.suffix_cons (.mark .openParen) _).trans
      (List.suffix_append (functionWords isUnsafe convention) _))
    exact (hparams.drop (List.suffix_cons _ _)).append ihret
  | path hfirst names =>
    intro hread
    refine ⟨(List.suffix_append _ _).trans (List.suffix_cons _ _), List.forall_mem_singleton.2 ?_⟩
    exact isTaken_lastName hfirst (hread _ List.mem_cons_self) names
  | @generic ts _ first _ hfirst names _ ih =>
    intro hread
    have hsub : ts <:+ .word first :: (segmentTokens names ++ .mark .less :: ts) :=
      ((List.suffix_cons _ _).trans (List.suffix_append _ _)).trans (List.suffix_cons _ _)
    obtain ⟨hrest, hpieces⟩ := ih.of_suffix hsub hread
    exact ⟨hrest, List.forall_mem_cons.2 ⟨isTaken_lastName hfirst (hread _ List.mem_cons_self) names, hpieces⟩⟩
  | noParameters | noArguments => exact fun _ => ⟨List.suffix_cons _ _, fun p hp => nomatch hp⟩
  | lastParameter hlabel _ ih =>
    intro hread
    obtain ⟨hrest, hpieces⟩ := (ih.of_suffix (List.suffix_append _ _)).drop (List.suffix_cons _ _) hread
    refine ⟨hrest, ?_⟩
    simp only [Form.pieces, piecesParams, List.append_nil, List.forall_mem_append]
    exact ⟨isTaken_labelName hlabel, hpieces⟩
  | nextParameter hlabel _ _ ih ihnext =>
    intro hread
    obtain ⟨hrest, hpieces⟩ := ((ih.of_suffix (List.suffix_append _ _)).drop (List.suffix_cons _ _)).append ihnext hread
    simp only [Form.pieces, piecesParams, List.forall_mem_append] at hpieces ⊢
    exact ⟨hrest, ⟨isTaken_labelName hlabel, hpieces.1⟩, hpieces.2⟩
  | lastArgument _ ih => simpa [Form.pieces, piecesAll] using ih.drop (List.suffix_cons _ _)
  | nextArgument _ _ ih ihnext => exact (ih.drop (List.suffix_cons _ _)).append ihnext

/-- A text that is read has its pieces from its tokens. -/
theorem isTaken_of_read {text : String} (h : read text = .ok e) : ∃ tokens,
    TyToken.readAll (Text.trimRight text.toList) = .ok tokens ∧ (∀ t ∈ tokens, t.IsRead) ∧
      ∀ p ∈ e.pieces, p.IsTaken tokens := by
  obtain ⟨tokens, htokens, hgives⟩ := read_ok h
  have hread := TyToken.isRead_of_readAll htokens
  exact ⟨tokens, htokens, hread, ((reads_of_gives (f := .type) hgives).holds hread).2⟩

/-! ### Array lengths -/

mutual
/-- The lengths of all arrays in an expression. -/
def lengths : Expr → List String
  | path _ args => lengthsAll args
  | pointer target _ _ => target.lengths
  | array element length => length :: element.lengths
  | function params ret => lengthsParams params ++ lengthsResult ret
  | unit => []
  | never => []

def lengthsAll : List Expr → List String
  | [] => []
  | e :: rest => e.lengths ++ lengthsAll rest

def lengthsParams : List (Option String × Expr) → List String
  | [] => []
  | (_, e) :: rest => e.lengths ++ lengthsParams rest

def lengthsResult : Option Expr → List String
  | none => []
  | some e => e.lengths
end

mutual
theorem length_mem_pieces : (e : Expr) → ∀ l ∈ e.lengths, .length l ∈ e.pieces
  | path _ args => fun l hl => List.mem_cons_of_mem _ (length_mem_piecesAll args l hl)
  | pointer target _ _ => length_mem_pieces target
  | array element length => fun l hl => by
    rcases List.mem_cons.1 hl with rfl | hl
    · exact List.mem_cons_self
    · exact List.mem_cons_of_mem _ (length_mem_pieces element l hl)
  | function params ret => fun l hl => List.mem_append.2
    ((List.mem_append.1 hl).imp (length_mem_piecesParams params l) (length_mem_piecesResult ret l))
  | unit => fun _ hl => nomatch hl
  | never => fun _ hl => nomatch hl

theorem length_mem_piecesAll : (es : List Expr) → ∀ l ∈ lengthsAll es, .length l ∈ piecesAll es
  | [] => fun _ hl => nomatch hl
  | e :: rest => fun l hl => List.mem_append.2
    ((List.mem_append.1 hl).imp (length_mem_pieces e l) (length_mem_piecesAll rest l))

theorem length_mem_piecesParams : (ps : List (Option String × Expr)) → ∀ l ∈ lengthsParams ps,
    .length l ∈ piecesParams ps
  | [] => fun _ hl => nomatch hl
  | (_, e) :: rest => fun l hl => by
    rw [piecesParams, List.append_assoc]
    refine List.mem_append_right _ (List.mem_append.2 ?_)
    exact (List.mem_append.1 hl).imp (length_mem_pieces e l) (length_mem_piecesParams rest l)

theorem length_mem_piecesResult : (ret : Option Expr) → ∀ l ∈ lengthsResult ret, .length l ∈ piecesResult ret
  | none => fun _ hl => nomatch hl
  | some e => length_mem_pieces e
end

theorem isLength_of_read {text : String} (h : read text = .ok e) : ∀ l ∈ e.lengths, TyToken.IsLength l := by
  obtain ⟨tokens, _, hread, htaken⟩ := isTaken_of_read h
  intro l hl
  obtain ⟨us, hne, hus, hbracket, rfl⟩ := htaken _ (length_mem_pieces e l hl)
  exact TyToken.isLength_join hne (fun t ht => hread t (hus.subset ht)) hbracket

end Expr

/-! ### Every token is taken for a name -/

namespace TyToken

variable {t : TyToken}

theorem spells_text (h : t.IsRead) : Spells t.text [t] := by
  cases t with
  | mark m =>
    by_cases hcolon : m = .colon
    · subst hcolon
      intro rest us hrest hus
      refine readAll_of_readOne? (readOne?_colon fun hhead => ?_) hus
      exact (hrest ':' hhead).2 rfl
    · exact (marks_mark hcolon).spells
  | word w => exact spells_run h.1 h.2
  | quoted s =>
    intro rest us _ hus
    have htext : (quoted s).text.toList ++ rest = '"' :: (s.toList ++ '"' :: rest) := by simp [text]
    rw [htext]
    have hone := readOne?_quoted (s := rest) h
    rw [String.ofList_toList] at hone
    exact readAll_of_readOne? hone hus

/-- A token does not end in a blank. -/
theorem last_text (h : t.IsRead) : ∃ c, t.text.toList.getLast? = some c ∧ Text.isBlank c = false := by
  cases t with
  | mark m => cases m <;> exact ⟨_, rfl, by decide⟩
  | word w =>
    have hne : w.toList ≠ [] := String.toList_eq_nil_iff.not.2 h.1
    exact ⟨_, List.getLast?_eq_some_getLast hne, CToken.isBlank_of_isNameChar (h.2 _ (List.getLast_mem hne))⟩
  | quoted s =>
    have htext : (quoted s).text.toList = '"' :: s.toList ++ ['"'] := by simp [text]
    exact ⟨'"', by rw [htext, List.getLast?_concat], by decide⟩

end TyToken

namespace Expr

variable {t : TyToken} {rest : List TyToken}

/-- A text whose last character is no blank is read from its tokens. -/
theorem read_of_tokens {text : String} {tokens : List TyToken} {e : Expr} {c : Char}
    (hlast : text.toList.getLast? = some c) (hc : Text.isBlank c = false)
    (htokens : TyToken.readAll text.toList = .ok tokens) (h : Gives (readType tokens) e []) : read text = .ok e := by
  refine read_of_gives ?_ h
  have htrim := congrArg String.toList (CToken.stripRight_of_last hlast hc)
  rw [Text.stripRight, String.toList_ofList] at htrim
  rwa [htrim]

theorem read_scope (h : t.IsRead) : read ("a::" ++ t.text) = .ok (.path t.text []) := by
  obtain ⟨c, hlast, hc⟩ := TyToken.last_text h
  have htext : ("a::" ++ t.text).toList.getLast? = some c := by
    rw [String.toList_append, List.getLast?_append, hlast]
    rfl
  have htokens : TyToken.readAll ("a::" ++ t.text).toList = .ok [.word "a", .mark .scope, t] := by
    have hname : TyToken.readOne? ('a' :: ':' :: ':' :: t.text.toList) =
      some (some (.word "a"), ':' :: ':' :: t.text.toList) := rfl
    have hscope : TyToken.readOne? (':' :: ':' :: t.text.toList) = some (some (.mark .scope), t.text.toList) := rfl
    rw [String.toList_append]
    exact TyToken.readAll_of_readOne? hname (TyToken.readAll_of_readOne? hscope (TyToken.spells_text h).readAll)
  have hstart : startsPath "a" = true := by decide
  exact read_of_tokens htext hc htokens ((Yields.path hstart [t]).all.gives rfl)

theorem read_parameter (h : t.IsRead) (hname : Piece.takesParameter t = true) :
    read ("fn(" ++ t.text ++ " : u8)") = .ok (.function [(some t.text, .path "u8" [])] none) := by
  have htext : ("fn(" ++ t.text ++ " : u8)").toList.getLast? = some ')' := by
    rw [String.toList_append, List.getLast?_append]
    rfl
  have htokens : TyToken.readAll ("fn(" ++ t.text ++ " : u8)").toList =
      .ok [.word "fn", .mark .openParen, t, .mark .colon, .word "u8", .mark .closeParen] := by
    have hfn : ∀ s, TyToken.readOne? ('f' :: 'n' :: '(' :: s) = some (some (.word "fn"), '(' :: s) := fun _ => rfl
    have hopen : ∀ s, TyToken.readOne? ('(' :: s) = some (some (.mark .openParen), s) := fun _ => rfl
    have htype : TyToken.readAll " : u8)".toList = .ok [.mark .colon, .word "u8", .mark .closeParen] := by cbv
    have hname := TyToken.spells_text h " : u8)".toList _ (TyToken.startsApart_cons rfl (by decide)) htype
    rw [String.toList_append, String.toList_append, List.append_assoc]
    exact TyToken.readAll_of_readOne? (hfn _) (TyToken.readAll_of_readOne? (hopen _) hname)
  obtain ⟨⟨hallowed, hclose⟩, hblank⟩ : (isParameterName t = true ∧ t ≠ .mark .closeParen) ∧ t ≠ .word "_" := by
    simpa [Piece.takesParameter] using hname
  have hlabel : isLabel (some t) = true := by simp [isLabel, hallowed, hclose]
  have hlast : labelName (some t) = some t.text := if_neg hblank
  have hstart : startsPath "u8" = true := by decide
  have hparams := Yields.lastParameter hlabel (.path hstart [])
  rw [hlast] at hparams
  exact read_of_tokens htext (by decide) htokens ((hparams.function false none).all.gives rfl)

/-- A type text is refused, or all names and lengths of what is read are taken from its tokens: no length is
empty, and a name is an identifier unless another token stands behind a double colon or in front of a colon. Every
token that can be read can stand there and becomes a name then. -/
theorem read_pieces (text : String) :
    ((∃ error, read text = .error error) ∨
      ∃ e tokens, read text = .ok e ∧ TyToken.readAll (Text.trimRight text.toList) = .ok tokens ∧
        (∀ p ∈ e.pieces, p.IsTaken tokens) ∧
        (∀ l, .length l ∈ e.pieces → l ≠ "") ∧
        ((∀ t, [.mark .scope, t] <:+: tokens → isWord t.text = true) →
          (∀ t, [t, .mark .colon] <:+: tokens → Piece.takesParameter t = true → isWord t.text = true) →
          ∀ p ∈ e.pieces, p.IsWellFormed)) ∧
    ∀ t : TyToken, t.IsRead → read ("a::" ++ t.text) = .ok (.path t.text []) ∧
      (Piece.takesParameter t = true →
        read ("fn(" ++ t.text ++ " : u8)") = .ok (.function [(some t.text, .path "u8" [])] none)) := by
  refine ⟨?_, fun t ht => ⟨read_scope ht, read_parameter ht⟩⟩
  cases hread : read text with
  | error error => exact .inl ⟨error, rfl⟩
  | ok e =>
    obtain ⟨tokens, htokens, hall, htaken⟩ := isTaken_of_read hread
    refine .inr ⟨e, tokens, rfl, htokens, htaken, fun l hl => ?_, fun hscope hcolon p hp => ?_⟩
    · obtain ⟨us, hne, hus, hbracket, rfl⟩ := htaken _ hl
      exact (TyToken.isLength_join hne (fun t ht => hall t (hus.subset ht)) hbracket).1
    · exact (htaken p hp).isWellFormed hall hscope hcolon

theorem read_pieces_visit : ∃ e, read "fn(item: std::Node, [u8; 2]) -> core::Flow<u8>" = .ok e ∧
    e.pieces = [.parameter "item", .name "Node", .length "2", .name "u8", .name "Flow", .name "u8"] ∧
    ∀ p ∈ e.pieces, p.IsWellFormed := by
  have htokens : TyToken.readAll (Text.trimRight "fn(item: std::Node, [u8; 2]) -> core::Flow<u8>".toList) =
      .ok [.word "fn", .mark .openParen, .word "item", .mark .colon, .word "std", .mark .scope, .word "Node",
        .mark .comma, .mark .openBracket, .word "u8", .mark .semicolon, .word "2", .mark .closeBracket,
        .mark .closeParen, .mark .arrow, .word "core", .mark .scope, .word "Flow", .mark .less, .word "u8",
        .mark .greater] := by cbv
  have hvisit : read "fn(item: std::Node, [u8; 2]) -> core::Flow<u8>" =
      .ok (.function [(some "item", .path "Node" []), (none, .array (.path "u8" []) "2")]
        (some (.path "Flow" [.path "u8" []]))) := by cbv
  rcases (read_pieces "fn(item: std::Node, [u8; 2]) -> core::Flow<u8>").1 with
    ⟨error, herror⟩ | ⟨e, tokens, he, hread, _, _, hwell⟩
  · rw [hvisit] at herror
    cases herror
  · rw [hvisit] at he
    rw [htokens] at hread
    cases he
    cases hread
    refine ⟨_, hvisit, rfl, hwell ?_ ?_⟩
    · intro t ht
      have hlast : t = .word "Node" ∨ t = .word "Flow" := by
        simpa [List.infix_cons_iff, List.cons_prefix_cons] using ht
      rcases hlast with rfl | rfl <;> decide
    · intro t ht _
      obtain rfl : t = .word "item" := by simpa [List.infix_cons_iff, List.cons_prefix_cons] using ht
      decide

/-- A mark is taken for a path, and a number for a parameter. -/
theorem read_malformed : read "std::*" = .ok (.path "*" []) ∧ isWord "*" = false ∧
    read "fn(1: u8)" = .ok (.function [(some "1", .path "u8" [])] none) ∧ isWord "1" = false := by
  refine ⟨?_, ?_, ?_, ?_⟩
  · cbv
  · decide
  · cbv
  · decide

end Expr

end CrateHeader
