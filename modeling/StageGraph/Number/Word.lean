/-! Sixty-four-bit words: how many there are, and where the signed ones end. -/
namespace StageGraph.Word

/-- One more than the largest word. -/
def count : Nat := Nat.pow 2 64

/-- One more than the largest signed word; the least signed word is its negative. -/
def half : Nat := Nat.pow 2 63

end StageGraph.Word
