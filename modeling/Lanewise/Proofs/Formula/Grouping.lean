import Lanewise.Proofs.Formula.Product

/-!
# When a product needs parentheses

The product with an expression has parentheses around the expression when a sign is seen behind an
operand outside all parentheses. Where no number has an exponent, this is so exactly for sums: a sign
behind an operand is an operator, every operator of a parenthesized phrase or of an argument stands
deeper, and at the depth of the expression itself only a sum has such operators. So the parentheses
are written exactly when the cotangent would not be a factor of what is read without them.
-/

namespace Lanewise

namespace Token

/-- Whether a number is written with digits and points alone, that is without an exponent. -/
def IsDecimal (literal : List Char) : Prop :=
  ∀ c ∈ literal, c.isDigit = true ∨ c = '.'

/-- The number that a token is. -/
def number? : Token → Option (List Char)
  | .number literal => some literal
  | _ => none

end Token

namespace Expression

mutual

/-- The numbers of an expression, in order. -/
def numbers : Expression → List (List Char)
  | number literal => [literal]
  | name _ => []
  | member base _ => numbers base
  | call function arguments => numbers function ++ argumentNumbers arguments
  | parenthesized inner => numbers inner
  | signed _ operand => numbers operand
  | binary _ left right => numbers left ++ numbers right

/-- The numbers of arguments, in order. -/
def argumentNumbers : List (Option String × Expression) → List (List Char)
  | [] => []
  | (_, e) :: rest => numbers e ++ argumentNumbers rest

end

/-- Whether the operator at the root of an expression is one of a sum. -/
def isSum : Expression → Bool
  | binary .add _ _ | binary .sub _ _ => true
  | _ => false

/-- A name is a factor of an expression when it is the leftmost operand of products and quotients
that make up the whole expression. -/
inductive HasFactor (name : String) : Expression → Prop
  | self : HasFactor name (.name name)
  | left {operator : Operator} (rank : operator.rank = 2) {left : Expression}
    (h : HasFactor name left) (right : Expression) : HasFactor name (.binary operator left right)

/-! ## Signs behind operands in a phrase -/

section

open Token

theorem argumentNumbers_append (front rest : List (Option String × Expression)) :
    argumentNumbers (front ++ rest) = argumentNumbers front ++ argumentNumbers rest := by
  induction front with
  | nil => rfl
  | cons argument front ih =>
    obtain ⟨label, e⟩ := argument
    rw [List.cons_append, argumentNumbers, argumentNumbers, ih, List.append_assoc]

theorem filterMap_separator (arguments : List (Option String × Expression)) :
    (separator arguments).filterMap number? = [] := by
  cases arguments with
  | nil => rfl
  | cons argument arguments => rfl

theorem filterMap_labelTokens (label : Option String) :
    (labelTokens label).filterMap number? = [] := by
  cases label with
  | none => rfl
  | some text => rfl

/-- The numbers of an expression are those it is written with. -/
theorem Written.filterMap_number? {phrase : Phrase} {e : Expression} {ts : List Token}
    (h : Written phrase e ts) : ts.filterMap number? = e.numbers := by
  induction h with
  | number literal => rfl
  | name text => rfl
  | member h field ih =>
    rw [List.filterMap_append, ih, numbers]
    exact List.append_nil _
  | @parenthesized inner ts h ih =>
    have hmark : (Token.mark '(' :: ts).filterMap number? = ts.filterMap number? := rfl
    rw [List.filterMap_append, hmark, ih, numbers]
    exact List.append_nil _
  | opening h ih =>
    rw [List.filterMap_append, ih, numbers, argumentNumbers]
    rfl
  | @argument function e arguments ts ts' h label h' ih ih' =>
    have hargument : argumentNumbers [(label, e)] = e.numbers := by
      rw [argumentNumbers, argumentNumbers, List.append_nil]
    rw [List.filterMap_append, List.filterMap_append, List.filterMap_append, ih, ih',
      filterMap_separator, filterMap_labelTokens, List.append_nil, List.append_nil, numbers, numbers,
      argumentNumbers_append, hargument, List.append_assoc]
  | closing h ih =>
    rw [List.filterMap_append, ih]
    exact List.append_nil _
  | ofPrimary h ih => exact ih
  | signed sign h ih => exact ih
  | ofSigned h ih => exact ih
  | @product operator rank left right ts ts' h h' ih ih' =>
    have hmark : (Token.mark operator.mark :: ts').filterMap number? = ts'.filterMap number? := rfl
    rw [List.filterMap_append, hmark, ih, ih', numbers]
  | ofProduct h ih => exact ih
  | @sum operator rank left right ts ts' h h' ih ih' =>
    have hmark : (Token.mark operator.mark :: ts').filterMap number? = ts'.filterMap number? := rfl
    rw [List.filterMap_append, hmark, ih, ih', numbers]

/-- Inside parentheses it does not matter whether there is an operand before. -/
theorem hasSumAfter_of_depth_ne_zero {depth : Int} (hdepth : depth ≠ 0) (operand : Bool)
    (ts : List Token) : hasSumAfter depth operand ts = hasSumAfter depth false ts := by
  cases ts with
  | nil => rfl
  | cons t rest =>
    cases t with
    | mark c =>
      have hsign : ∀ operand : Bool,
          ¬ ((c = '+' ∨ c = '-') ∧ depth = 0 ∧ operand = true) :=
        fun operand hsign => hdepth hsign.2.1
      rw [hasSumAfter, hasSumAfter, if_neg (hsign operand), if_neg (hsign false)]
    | number literal => rfl
    | word text => rfl

/-- No sum is seen at a sign, at an operator of a product or inside parentheses. -/
theorem hasSumAfter_operator_eq (operator : Operator) {depth : Int} {operand : Bool}
    (h : operand = false ∨ operator.rank = 2 ∨ depth ≠ 0) (rest : List Token) :
    hasSumAfter depth operand (.mark operator.mark :: rest) = hasSumAfter depth false rest := by
  have hends : Formula.endsOperand operator.mark = false := by cases operator <;> decide
  have hopening : operator.mark ≠ '(' := by cases operator <;> decide
  have hclosing : operator.mark ≠ ')' := by cases operator <;> decide
  have hsign : ¬ ((operator.mark = '+' ∨ operator.mark = '-') ∧ depth = 0 ∧ operand = true) := by
    rintro ⟨hmark, hzero, hoperand⟩
    rcases h with hfalse | hrank | hdepth
    · rw [hfalse] at hoperand
      cases hoperand
    · cases operator with
      | add => cases hrank
      | sub => cases hrank
      | mul => exact absurd hmark (by decide)
      | div => exact absurd hmark (by decide)
    · exact hdepth hzero
  rw [hasSumAfter, if_neg hopening, if_neg hclosing, if_neg hsign, hends]

/-- What is seen with a phrase in front is seen behind it: at its own depth only a sum has operators
that are seen, and what it has in parentheses or as arguments stands deeper. -/
theorem Written.seenBehind {phrase : Phrase} {e : Expression} {ts : List Token}
    (h : Written phrase e ts) {depth : Int} (hdepth : 0 ≤ depth)
    (hphrase : phrase = .sum → depth ≠ 0) {rest : List Token}
    (hseen : hasSumAfter depth false (ts ++ rest) = true) : SeenBehind depth rest phrase := by
  induction h generalizing depth rest with
  | number literal => exact hseen
  | name text => exact hseen
  | member h field ih =>
    rw [List.append_assoc] at hseen
    have hbase : SeenBehind depth ([.mark '.', .word field] ++ rest) .primary :=
      ih hdepth (by simp) hseen
    exact hbase
  | @parenthesized inner ts h ih =>
    rw [List.cons_append, List.cons_append, List.append_assoc, hasSumAfter_opening] at hseen
    have hinner : SeenBehind (depth + 1) ([.mark ')'] ++ rest) .sum :=
      ih (by omega) (fun _ => by omega) hseen
    exact (hasSumAfter_closing depth true rest).symm.trans hinner
  | opening h ih =>
    rw [List.append_assoc] at hseen
    exact ih hdepth (by simp) hseen
  | @argument function e arguments ts ts' h label h' ih ih' =>
    rw [List.append_assoc, List.append_assoc, List.append_assoc] at hseen
    have hcall : SeenBehind depth (separator arguments ++ (labelTokens label ++ (ts' ++ rest)))
        .openCall := ih hdepth (by simp) hseen
    rw [SeenBehind, hasSumAfter_separator, hasSumAfter_labelTokens] at hcall
    have hinside : depth + 1 ≠ 0 := by omega
    have hargument : SeenBehind (depth + 1) rest .sum :=
      ih' (by omega) (fun _ => hinside) hcall
    exact (hasSumAfter_of_depth_ne_zero hinside true rest).symm.trans hargument
  | closing h ih =>
    rw [List.append_assoc] at hseen
    have hcall : SeenBehind depth ([.mark ')'] ++ rest) .openCall :=
      ih hdepth (by simp) hseen
    exact (hasSumAfter_closing depth false rest).symm.trans hcall
  | ofPrimary h ih => exact ih hdepth (by simp) hseen
  | @signed sign e ts h ih =>
    have hsign : hasSumAfter depth false (.mark sign.mark :: (ts ++ rest)) =
        hasSumAfter depth false (ts ++ rest) := by
      cases sign with
      | plus => exact hasSumAfter_operator_eq .add (.inl rfl) _
      | minus => exact hasSumAfter_operator_eq .sub (.inl rfl) _
    rw [List.cons_append, hsign] at hseen
    exact ih hdepth (by simp) hseen
  | ofSigned h ih => exact ih hdepth (by simp) hseen
  | @product operator rank left right ts ts' h h' ih ih' =>
    rw [List.append_assoc] at hseen
    have hleft : hasSumAfter depth true (.mark operator.mark :: (ts' ++ rest)) = true :=
      ih hdepth (by simp) hseen
    rw [hasSumAfter_operator_eq operator (.inr (.inl rank))] at hleft
    exact ih' hdepth (by simp) hleft
  | ofProduct h ih => exact ih hdepth (by simp) hseen
  | @sum operator rank left right ts ts' h h' ih ih' =>
    have hnonzero := hphrase rfl
    rw [List.append_assoc] at hseen
    have hleft : hasSumAfter depth true (.mark operator.mark :: (ts' ++ rest)) = true :=
      ih hdepth hphrase hseen
    rw [hasSumAfter_operator_eq operator (.inr (.inr hnonzero))] at hleft
    exact ih' hdepth (by simp) hleft

theorem Written.isSum_eq_false {phrase : Phrase} {e : Expression} {ts : List Token}
    (h : Written phrase e ts) (hphrase : phrase ≠ .sum) : e.isSum = false := by
  induction h with
  | @product operator rank =>
    cases operator with
    | add => cases rank
    | sub => cases rank
    | mul => rfl
    | div => rfl
  | ofPrimary h ih => exact ih (by simp)
  | ofSigned h ih => exact ih (by simp)
  | ofProduct => exact absurd rfl hphrase
  | sum => exact absurd rfl hphrase
  | _ => rfl

/-- Among the tokens of an expression a sum is seen exactly if the expression is one. -/
theorem Written.hasSumAfter_eq_isSum {e : Expression} {ts : List Token} (h : Written .sum e ts) :
    hasSumAfter 0 false ts = e.isSum := by
  cases h with
  | ofProduct h =>
    rw [h.isSum_eq_false (by simp), Bool.eq_false_iff]
    intro hseen
    rw [← List.append_nil ts] at hseen
    have hnothing : SeenBehind 0 [] .product := h.seenBehind (by simp) (by simp) hseen
    cases hnothing
  | @sum operator rank left right ts ts' h h' =>
    have hseen : hasSumAfter 0 false (ts ++ .mark operator.mark :: ts') = true :=
      h.hasSumAfter_append (hasSumAfter_sum rank ts') false
    rw [hseen]
    cases operator with
    | add => rfl
    | sub => rfl
    | mul => cases rank
    | div => cases rank

end

end Expression

/-! ## From characters to tokens -/

namespace Token

theorem withWord_of_startsNumber {word : List Char} (h : startsNumber word = true)
    {own ts : List Token} (hts : withWord word own = some ts) : ts = .number word :: own := by
  rcases withWord_cases hts with ⟨rfl, -⟩ | ⟨-, -, hnumber⟩ | ⟨-, hstarts, -⟩
  · cases h
  · exact hnumber
  · rw [h] at hstarts
    cases hstarts

theorem mem_of_withWord {word : List Char} {own ts : List Token}
    (hts : withWord word own = some ts) {t : Token} (ht : t ∈ own) : t ∈ ts := by
  rcases withWord_cases hts with ⟨-, rfl⟩ | ⟨-, -, rfl⟩ | ⟨-, -, rfl⟩
  · exact ht
  · exact List.mem_cons_of_mem _ ht
  · exact List.mem_cons_of_mem _ ht

/-- A number of which the start has been read becomes a token. -/
theorem exists_number_mem {word chars : List Char} {ts : List Token}
    (hstarts : startsNumber word = true) (h : ofCharsAfter word chars = some ts) :
    ∃ more, .number (word ++ more) ∈ ts := by
  induction chars generalizing word ts with
  | nil =>
    have hend : withWord word [] = some ts := h
    rw [withWord_of_startsNumber hstarts hend]
    exact ⟨[], by simp⟩
  | cons c rest ih =>
    by_cases hcontinues : continues word c = true
    · rw [ofCharsAfter_of_continues hcontinues] at h
      obtain ⟨more, hmem⟩ := ih (startsNumber_append hstarts [c]) h
      rw [List.append_assoc] at hmem
      exact ⟨_, hmem⟩
    · rw [Bool.not_eq_true] at hcontinues
      obtain ⟨own, tokens, -, -, hts⟩ := ofCharsAfter_eq_some hcontinues h
      rw [withWord_of_startsNumber hstarts hts]
      exact ⟨[], by simp⟩

/-- Where numbers have no exponents, only word characters and points go on with a word. -/
theorem isTail_or_eq_of_continues {word rest : List Char} {c : Char} {ts : List Token}
    (hcontinues : continues word c = true) (h : ofCharsAfter word (c :: rest) = some ts)
    (hdecimal : ∀ literal, .number literal ∈ ts → IsDecimal literal) :
    Identifier.isTail c = true ∨ c = '.' := by
  have hsplit := hcontinues
  simp only [continues, Bool.or_eq_true, Bool.and_eq_true, beq_iff_eq] at hsplit
  rcases hsplit with (htail | ⟨⟨rfl, -⟩, -⟩) | ⟨⟨hsign, hstarts⟩, -⟩
  · exact .inl htail
  · exact .inr rfl
  · -- The sign of an exponent would be a character of a number.
    rw [ofCharsAfter_of_continues hcontinues] at h
    obtain ⟨more, hmem⟩ := exists_number_mem (startsNumber_append hstarts [c]) h
    rcases hdecimal _ hmem c (by simp) with hdigit | hpoint
    · exact .inl (by simp [Identifier.isTail, Char.isAlphanum, hdigit])
    · exact .inr hpoint

end Token

namespace Formula

open Expression Token

/-- A word character or a point is passed, whatever is before it. -/
theorem hasSumAfter_cons_eq {c : Char} (h : Identifier.isTail c = true ∨ c = '.') (depth : Int)
    (previous : Option Char) (rest : List Char) :
    hasSumAfter depth previous (c :: rest) = hasSumAfter depth (some c) rest := by
  rcases h with htail | rfl
  · exact hasSumAfter_cons_of_isTail htail depth previous rest
  · rfl

/-- Where numbers have no exponents, what is seen among the characters of a text is seen among its
tokens. -/
theorem tokens_hasSumAfter {word chars : List Char} {ts : List Token} (hword : Token.IsWord word)
    (h : ofCharsAfter word chars = some ts)
    (hdecimal : ∀ literal, .number literal ∈ ts → IsDecimal literal) {depth : Int}
    {operand : Bool} {previous : Option Char}
    (hempty : word = [] → previous.any endsOperand = operand)
    (hprevious : word ≠ [] → previous = word.getLast?)
    (hsum : hasSumAfter depth previous chars = true) :
    Token.hasSumAfter depth operand ts = true := by
  induction chars generalizing word ts depth operand previous with
  | nil => cases hsum
  | cons c rest ih =>
    by_cases hcontinues : continues word c = true
    · rw [hasSumAfter_cons_eq (isTail_or_eq_of_continues hcontinues h hdecimal)] at hsum
      rw [ofCharsAfter_of_continues hcontinues] at h
      exact ih (hword.concat hcontinues) h hdecimal (by simp) (by simp) hsum
    · rw [Bool.not_eq_true] at hcontinues
      obtain ⟨own, tokens, hown, htokens, hts⟩ := ofCharsAfter_eq_some hcontinues h
      have hends := any_endsOperand_eq hword hts hempty hprevious
      have hrest : ∀ literal, .number literal ∈ tokens → IsDecimal literal :=
        fun literal hmem => hdecimal literal (mem_of_withWord hts (List.mem_append_right _ hmem))
      obtain ⟨found, depth', previous', hchars, hmarks⟩ :=
        exists_step_of_separate hown depth hends
      rw [hchars, Bool.or_eq_true] at hsum
      rw [hasSumAfter_withWord hts, hmarks, Bool.or_eq_true]
      exact hsum.imp_right (ih isWord_nil htokens hrest (fun _ => rfl) (by simp))

/-- Where numbers have no exponents, a text is taken for a sum exactly if its expression is one. -/
theorem isSum_eq_of_written {chars : List Char} {ts : List Token} {e : Expression}
    (htokens : ofCharsAfter [] chars = some ts) (h : Written .sum e ts)
    (hdecimal : ∀ literal ∈ e.numbers, IsDecimal literal) : isSum chars = e.isSum := by
  have hnumbers : ∀ literal, .number literal ∈ ts → IsDecimal literal := by
    intro literal hmem
    rw [← h.filterMap_number?] at hdecimal
    exact hdecimal literal (List.mem_filterMap.2 ⟨_, hmem, rfl⟩)
  rw [← h.hasSumAfter_eq_isSum, Bool.eq_iff_iff]
  constructor
  · exact tokens_hasSumAfter isWord_nil htokens hnumbers (fun _ => rfl) (by simp)
  · exact hasSumAfter_of_tokens isWord_nil htokens (fun _ => rfl) (by simp)

end Formula

/-! ## Writing a factor in front -/

namespace Expression

/-- In front of a product a name becomes a factor of the whole. -/
theorem Written.hasFactor_timesLeftmost {phrase : Phrase} {e : Expression} {ts : List Token}
    (h : Written phrase e ts) (hphrase : phrase = .product) (name : String) :
    HasFactor name (Expression.timesLeftmost name e) := by
  induction h with
  | @ofSigned e ts h =>
    have hrank : Operator.mul.rank = 2 := rfl
    rw [h.timesLeftmost_eq (.inr rfl)]
    exact .left hrank .self e
  | product rank h h' ih => exact .left rank (ih rfl) _
  | _ => cases hphrase

/-- In front of a sum a name is no factor of the whole. -/
theorem not_hasFactor_timesLeftmost {e : Expression} (h : e.isSum = true) (name : String) :
    ¬ HasFactor name (Expression.timesLeftmost name e) := by
  intro hfactor
  cases e with
  | binary operator left right =>
    rw [Expression.timesLeftmost] at hfactor
    cases hfactor with
    | left rank =>
      cases operator with
      | add => cases rank
      | sub => cases rank
      | mul => cases h
      | div => cases h
  | _ => cases h

theorem Written.product_of_not_isSum {e : Expression} {ts : List Token} (h : Written .sum e ts)
    (hsum : e.isSum = false) : Written .product e ts := by
  cases h with
  | ofProduct h => exact h
  | @sum operator rank =>
    cases operator with
    | add => cases hsum
    | sub => cases hsum
    | mul => cases rank
    | div => cases rank

/-- A name is a factor of what is read with it in front exactly if the rest is no sum. -/
theorem Written.hasFactor_timesLeftmost_iff {e : Expression} {ts : List Token}
    (h : Written .sum e ts) (name : String) :
    HasFactor name (Expression.timesLeftmost name e) ↔ e.isSum = false := by
  constructor
  · intro hfactor
    rw [Bool.eq_false_iff]
    exact fun hsum => not_hasFactor_timesLeftmost hsum name hfactor
  · intro hsum
    exact (h.product_of_not_isSum hsum).hasFactor_timesLeftmost rfl name

end Expression

namespace Formula

open Expression Token

theorem scale_of_isSum {cotangent text : String} (hsum : isSum text.toList = true) :
    scale cotangent text = cotangent ++ " * (" ++ text ++ ")" := by
  rw [scale, scaleChars_of_isSum hsum, String.ofList_append, String.ofList_append,
    String.ofList_append, String.ofList_toList, String.ofList_toList, String.ofList_toList]

/-- Where no sum is seen, the product has no other parentheses than the cotangent and the expression.
-/
theorem count_scaleChars {cotangent chars : List Char} (hsum : isSum chars = false) :
    (scaleChars cotangent chars).count '(' = cotangent.count '(' + chars.count '(' := by
  induction chars using scaleChars.induct with
  | case1 chars hsum' => exact absurd (hsum'.symm.trans hsum) (by decide)
  | case2 rest _ ih =>
    have hminus : ('-' == '(') = false := by decide
    rw [scaleChars_minus hsum, List.count_cons, List.count_cons,
      ih ((isSum_minus rest).symm.trans hsum), hminus]
    omega
  | case3 rest _ =>
    rw [scaleChars_reciprocal hsum, List.count_append, List.count_append]
    simp
  | case4 chars hminus hreciprocal _ =>
    rw [scaleChars_factor hsum hminus hreciprocal, List.count_append, List.count_append]
    simp

theorem count_scale (cotangent : String) {text : String} (hsum : isSum text.toList = false) :
    (scale cotangent text).toList.count '(' =
      cotangent.toList.count '(' + text.toList.count '(' := by
  rw [scale, String.toList_ofList, count_scaleChars hsum]

/-- The product is put together with parentheses around the expression exactly if a sum is seen. -/
theorem scale_eq_parenthesized_iff (cotangent text : String) :
    scale cotangent text = cotangent ++ " * (" ++ text ++ ")" ↔ isSum text.toList = true := by
  refine ⟨fun hscale => ?_, scale_of_isSum⟩
  by_contra hsum
  have hcount := count_scale cotangent (Bool.eq_false_iff.2 hsum)
  have hparenthesis : " * (".toList.count '(' = 1 ∧ ")".toList.count '(' = 0 := by decide
  rw [hscale, String.toList_append, String.toList_append, String.toList_append, List.count_append,
    List.count_append, List.count_append, hparenthesis.1, hparenthesis.2] at hcount
  omega

/-- In the text of an expression a sum is seen exactly if the expression is one, as long as no number
has an exponent. So the product with a cotangent is put together with parentheses around the
expression exactly if the cotangent is no factor of what it, a times sign and the expression are read
as. Otherwise that is the product in meaning, and no parentheses are added. -/
theorem hasTopLevelSum_iff_isSum {text : String} {e : Expression} (htext : e.IsTextOf text)
    (hdecimal : ∀ literal ∈ e.numbers, IsDecimal literal) :
    (hasTopLevelSum text = true ↔ e.isSum = true) ∧
      ∀ {cotangent name : String}, (Expression.name name).IsTextOf cotangent →
        ∃ product : Expression, product.IsTextOf (cotangent ++ " * " ++ text) ∧
          (scale cotangent text = cotangent ++ " * (" ++ text ++ ")" ↔ ¬ HasFactor name product) ∧
          (HasFactor name product → IsScaled name e product ∧
            (scale cotangent text).toList.count '(' =
              cotangent.toList.count '(' + text.toList.count '(') := by
  obtain ⟨ts, htokens, hwritten⟩ := htext
  have hseen : isSum text.toList = e.isSum := isSum_eq_of_written htokens hwritten hdecimal
  refine ⟨by rw [hasTopLevelSum, hseen], fun {cotangent name} hcotangent => ?_⟩
  have hproduct : (timesLeftmost name e).IsTextOf (cotangent ++ " * " ++ text) := by
    refine ⟨_, ?_, hwritten.timesLeftmost (.inr rfl) name⟩
    rw [String.toList_append, String.toList_append, List.append_assoc]
    exact ofCharsAfter_append_operator (by decide) (by decide)
      (tokens_of_isTextOf_name hcotangent) htokens
  have hfactor := hwritten.hasFactor_timesLeftmost_iff name
  refine ⟨timesLeftmost name e, hproduct, ?_, fun hname => ?_⟩
  · rw [scale_eq_parenthesized_iff, hseen, hfactor, Bool.not_eq_false]
  · have hsum := hfactor.1 hname
    exact ⟨(hwritten.product_of_not_isSum hsum).isScaled_timesLeftmost rfl name,
      count_scale cotangent (hseen.trans hsum)⟩

/-- A sign behind an operator is none of a sum, and one behind the point of a number is. -/
theorem hasTopLevelSum_difference :
    ((Expression.binary .sub (.number ['1', '.'])
          (.binary .mul (.name "x") (.signed .minus (.name "y")))).IsTextOf "1. - x * -y" ∧
        IsDecimal ['1', '.'] ∧ (Expression.name "v").IsTextOf "v") ∧
      hasTopLevelSum "1. - x * -y" = true ∧ scale "v" "1. - x * -y" = "v * (1. - x * -y)" ∧
      ∃ product : Expression, product.IsTextOf "v * 1. - x * -y" ∧ ¬ HasFactor "v" product := by
  have hsub : Operator.sub.rank = 1 := rfl
  have hmul : Operator.mul.rank = 2 := rfl
  have hleft : Written .sum (.number ['1', '.']) [.number ['1', '.']] :=
    .ofProduct (.ofSigned (.ofPrimary (.number ['1', '.'])))
  have hx : Written .product (.name "x") [.word "x"] := .ofSigned (.ofPrimary (.name "x"))
  have hy : Written .signed (.signed .minus (.name "y")) [.mark '-', .word "y"] :=
    .signed .minus (.ofPrimary (.name "y"))
  have htext : (Expression.binary .sub (.number ['1', '.'])
      (.binary .mul (.name "x") (.signed .minus (.name "y")))).IsTextOf "1. - x * -y" :=
    ⟨_, by decide, .sum hsub hleft (.product hmul hx hy)⟩
  have hone : IsDecimal ['1', '.'] :=
    List.forall_mem_cons.2 ⟨.inl rfl, List.forall_mem_singleton.2 (.inr rfl)⟩
  have hcotangent : (Expression.name "v").IsTextOf "v" :=
    ⟨[.word "v"], by decide, .ofProduct (.ofSigned (.ofPrimary (.name "v")))⟩
  obtain ⟨hsum, hproducts⟩ := hasTopLevelSum_iff_isSum htext (List.forall_mem_singleton.2 hone)
  obtain ⟨product, hproduct, hscale, -⟩ := hproducts hcotangent
  have hparenthesized : scale "v" "1. - x * -y" = "v * (1. - x * -y)" := by decide
  exact ⟨⟨htext, hone, hcotangent⟩, hsum.2 rfl, hparenthesized, product, hproduct,
    hscale.1 hparenthesized⟩

/-- The sign of an exponent stands behind a letter and is taken for the operator of a sum. -/
example : hasTopLevelSum "1e-5" = true := by decide

end Formula

end Lanewise
