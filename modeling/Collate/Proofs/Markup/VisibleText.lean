import Collate.Markup.Text
import Collate.Proofs.Text.Words

/-!
# Visible text

The visible text of an element is the sequence of the words in its pieces of text, each piece with
words of its own, joined by single spaces (`visibleText_eq_words`).

So it does not show how a document is spaced (`Respaced`): pieces of blanks only may come and go
anywhere below the element, and a run of blanks inside of a piece may be any other one.
-/

namespace Collate.Markup

variable {holder : Option Holder} {nodes others : List Node}

/-! ## The words below an element -/

/-- The words in the pieces of text of some nodes. -/
def wordsAmong (holder : Option Holder) (nodes : List Node) : List String :=
  (stringsOf holder nodes).flatMap Text.wordsOf

theorem stringsOf_append (before after : List Node) :
    stringsOf holder (before ++ after) = stringsOf holder before ++ stringsOf holder after := by
  induction before with
  | nil => rfl
  | cons node rest ih => simp [stringsOf, ih]

@[simp] theorem wordsAmong_append (before after : List Node) :
    wordsAmong holder (before ++ after) = wordsAmong holder before ++ wordsAmong holder after := by
  simp [wordsAmong, stringsOf_append]

@[simp] theorem wordsAmong_data_cons (role : Role) (content : String) (rest : List Node) :
    wordsAmong holder (.data role content :: rest) =
      (if role.counts holder then Text.wordsOf content else []) ++ wordsAmong holder rest := by
  simp only [wordsAmong, stringsOf, Node.strings]
  split <;> simp

/-- What is inside of an element counts as if it stood in its place. -/
@[simp] theorem wordsAmong_element_cons (tag : Tag) (children rest : List Node) :
    wordsAmong holder (.element tag children :: rest) =
      wordsAmong holder children ++ wordsAmong holder rest := by
  simp [wordsAmong, stringsOf, Node.strings]

/-! ## Spacing -/

/-- The documents differ in their spacing only.  Pieces of blanks may be there or not, wherever they
are, and a run of blanks may be any other one. -/
inductive Respaced : List Node → List Node → Prop
  | refl (nodes : List Node) : Respaced nodes nodes
  | symm {nodes others : List Node} (h : Respaced nodes others) : Respaced others nodes
  | trans {nodes between others : List Node} (h : Respaced nodes between)
    (h' : Respaced between others) : Respaced nodes others
  /-- A piece of blanks comes in between. -/
  | insert (role : Role) {blanks : String} (h : Text.allBlank blanks.toList = true)
    (before after : List Node) : Respaced (before ++ after) (before ++ .data role blanks :: after)
  | respace (role : Role) {content content' : String}
    (h : Text.Respaced content.toList content'.toList) (before after : List Node) :
    Respaced (before ++ .data role content :: after) (before ++ .data role content' :: after)
  | inside (tag : Tag) {children children' : List Node} (h : Respaced children children')
    (before after : List Node) :
    Respaced (before ++ .element tag children :: after) (before ++ .element tag children' :: after)

/-- Spacing does not change the words. -/
theorem Respaced.wordsAmong_eq (h : Respaced nodes others) :
    wordsAmong holder nodes = wordsAmong holder others := by
  induction h with
  | refl nodes => rfl
  | symm h ih => exact ih.symm
  | trans h h' ih ih' => exact ih.trans ih'
  | @insert role blanks h before after =>
      have hnone : Text.wordsOf blanks = [] := by
        rw [Text.wordsOf, Text.words_eq_nil_of_allBlank h, List.map_nil]
      simp [hnone]
  | @respace role content content' h before after =>
      have hsame : Text.wordsOf content = Text.wordsOf content' := by
        rw [Text.wordsOf, Text.wordsOf, h.words_eq]
      simp [hsame]
  | inside tag h before after ih => simp [ih]

/-! ## Visible text -/

theorem map_toList_wordsAmong (nodes : List Node) :
    (wordsAmong holder nodes).map String.toList =
      ((stringsOf holder nodes).map String.toList).flatMap Text.words := by
  simp [wordsAmong, Text.wordsOf, List.map_flatMap, List.flatMap_map, Function.comp_def]

theorem toList_visibleText (tag : Tag) (children : List Node) :
    (visibleText tag children).toList =
      [' '].intercalate ((textPieces tag children).map String.toList |>.flatMap Text.words) := by
  have hspace : " ".toList = [' '] := by decide
  rw [visibleText, String.toList_ofList, String.toList_intercalate, hspace, Text.joinedWords,
    Text.words_intercalate]
  rfl

theorem visibleText_eq_intercalate (tag : Tag) (children : List Node) :
    visibleText tag children =
      " ".intercalate (wordsAmong (Holder.ofName? tag.name) children) := by
  have hspace : " ".toList = [' '] := by decide
  apply String.toList_injective
  rw [toList_visibleText, String.toList_intercalate, hspace, map_toList_wordsAmong]
  rfl

/-- **Visible text is a sequence of words**: of the words in the pieces of text of the element, in
document order, joined by single spaces.  A word never goes beyond its piece.  So every blank in it
is a single space between two words, and it does not show how the document is spaced. -/
theorem visibleText_eq_words (tag : Tag) (children : List Node) :
    visibleText tag children =
        " ".intercalate ((textPieces tag children).flatMap Text.wordsOf) ∧
      Text.SinglySpaced (visibleText tag children).toList ∧
      ∀ others, Respaced children others → visibleText tag others = visibleText tag children := by
  refine ⟨visibleText_eq_intercalate tag children, ?_, fun others h => ?_⟩
  · rw [toList_visibleText]
    apply Text.singlySpaced_intercalate
    intro word hword
    obtain ⟨piece, -, hpiece⟩ := List.mem_flatMap.mp hword
    exact Text.isWord_of_mem_words piece word hpiece
  · rw [visibleText_eq_intercalate, visibleText_eq_intercalate, h.wordsAmong_eq]

/-- A line end in place of the blanks in a piece, and another one between two pieces. -/
theorem visibleText_eq_words_lines :
    let tag : Tag := ⟨1, "p", []⟩
    let bold : Node := .element ⟨2, "b", []⟩ [.data .plain "c"]
    let children : List Node := [.data .plain "a  b", bold]
    let others : List Node := [.data .plain "a\nb", .data .plain "\n", bold]
    Respaced children others ∧ visibleText tag others = visibleText tag children ∧
      visibleText tag children = "a b c" := by
  intro tag bold children others
  have hpiece : Text.Respaced "a  b".toList "a\nb".toList := by
    have hleft : "a  b".toList = 'a' :: ([' ', ' '] ++ ['b']) := by decide
    have hright : "a\nb".toList = 'a' :: (['\n'] ++ ['b']) := by decide
    have hblanks : Text.IsGap [' ', ' '] := ⟨by decide, by decide⟩
    have hline : Text.IsGap ['\n'] := ⟨by decide, by decide⟩
    rw [hleft, hright]
    exact .keep 'a' (.change hblanks hline (.keep 'b' .nil))
  have hblank : Text.allBlank "\n".toList = true := by decide
  have hrespaced : Respaced children others :=
    .trans (.respace .plain hpiece [] [bold]) (.insert .plain hblank [.data .plain "a\nb"] [bold])
  obtain ⟨hwords, -, hspacing⟩ := visibleText_eq_words tag children
  exact ⟨hrespaced, hspacing others hrespaced, hwords.trans (by decide)⟩

end Collate.Markup
