import ScriptArena.Judge.Challenge

namespace ScriptArena.Bundled

def arraySum : Challenge where
  id := "array-sum"
  title := "Array Sum Algorithm"
  description :=
    "Calculate the total sum of all numbers in a list. This fundamental operation is " ++
      "used in data analysis, statistics, and many algorithms."
  difficulty := .junior
  category := .algorithm
  template := "\n".intercalate [
    "def array_sum(numbers):",
    "  \"\"\"",
    "  Calculate the sum of all numbers in a list.",
    "",
    "  Args:",
    "      numbers (list): A list of integers or floats",
    "",
    "  Returns:",
    "      int/float: The sum of all numbers in the list",
    "",
    "  Examples:",
    "      array_sum([1, 2, 3]) -> 6",
    "      array_sum([]) -> 0",
    "      array_sum([-1, 1]) -> 0",
    "  \"\"\"",
    "  # TODO: Implement the function",
    "  # Hint: You can use a loop or Python's built-in sum() function",
    "  pass"]
  solution := "\n".intercalate [
    "def array_sum(numbers):",
    "  \"\"\"Calculate the sum of all numbers in a list.\"\"\"",
    "  return sum(numbers)"]
  testCases := [
    ⟨.list [.list [.int 1, .int 2, .int 3, .int 4]], .int 10,
      some "Sum of positive integers [1, 2, 3, 4]", some "1 + 2 + 3 + 4 = 10"⟩,
    ⟨.list [.list [.int 0, .int (-1), .int 5]], .int 4,
      some "Sum with negative numbers [0, -1, 5]", some "0 + (-1) + 5 = 4"⟩,
    ⟨.list [.list []], .int 0,
      some "Empty list should return 0", some "Sum of no numbers is 0 by definition"⟩,
    ⟨.list [.list [.int 42]], .int 42,
      some "Single element list [42]", some "Sum of one number is the number itself"⟩,
    ⟨.list [.list [.int (-5), .int (-10), .int (-3)]], .int (-18),
      some "All negative numbers [-5, -10, -3]", some "(-5) + (-10) + (-3) = -18"⟩]
  points := 100
  hints := [
    "Python has a built-in sum() function that can add all numbers in a list",
    "Alternative: Use a for loop with a running total: total = 0; for num in " ++
      "numbers: total += num",
    "Remember that sum([]) returns 0, which handles the empty list case automatically",
    "The sum() function works with both integers and floating-point numbers"]
  learningObjectives := [
    "Understand list iteration and aggregation",
    "Learn about Python's built-in functions",
    "Practice handling edge cases (empty lists)"]
  commonMistakes := [
    "Forgetting to handle empty lists",
    "Not returning the result",
    "Using incorrect variable names"]

def countDown : Challenge where
  id := "find-bug"
  title := "Debug the Infinite Loop"
  description :=
    "Fix a common programming bug that causes an infinite loop. count_down(n) should " ++
      "print n, n-1, ..., 1 and then return \"Done!\"; count_down(0) returns \"Done!\" " ++
      "immediately. Replace the placeholder inside the loop with the statement that " ++
      "lets it finish."
  difficulty := .mid
  category := .debug
  template := "\n".intercalate [
    "def count_down(n):",
    "  while n > 0:",
    "      print(n)",
    "      pass  # BUG: nothing changes n, so the loop never ends",
    "  return \"Done!\""]
  solution := "\n".intercalate [
    "def count_down(n):",
    "  \"\"\"Count down from n to 1, printing each number.\"\"\"",
    "  while n > 0:",
    "      print(n)",
    "      n -= 1  # Fixed: decrement n to eventually exit the loop",
    "  return \"Done!\""]
  testCases := [
    ⟨.list [.int 3], .str "Done!",
      some "Countdown from 3", some "Should print 3, 2, 1 then return 'Done!'"⟩,
    ⟨.list [.int 1], .str "Done!",
      some "Countdown from 1", some "Should print 1 then return 'Done!'"⟩,
    ⟨.list [.int 0], .str "Done!",
      some "No countdown needed for 0", some "Loop condition n > 0 is false, so skip loop"⟩]
  points := 200
  hints := [
    "Look at the while loop condition: 'while n > 0'. What makes this condition " ++
      "eventually become false?",
    "The variable 'n' needs to change inside the loop, otherwise the condition 'n > " ++
      "0' will always be true",
    "Add 'n -= 1' (or 'n = n - 1') inside the while loop to decrement n each iteration",
    "This is a classic infinite loop bug - the loop control variable isn't being modified"]
  learningObjectives := [
    "Understand loop control variables",
    "Learn to identify and fix infinite loops",
    "Practice debugging systematic thinking"]
  commonMistakes := [
    "Not modifying the loop control variable",
    "Incrementing instead of decrementing",
    "Placing the decrement outside the loop"]
  givenName := "count_down"
  loopVariable := some "n"

def evenSquares : Challenge where
  id := "list-comprehension"
  title := "List Comprehension Mastery"
  description :=
    "Create an elegant one-liner using Python's list comprehension to filter and " ++
      "transform data. This is a powerful Pythonic pattern."
  difficulty := .senior
  category := .algorithm
  template := "\n".intercalate [
    "def even_squares(n):",
    "  \"\"\"",
    "  Generate a list of squares for all even numbers from 0 to n (inclusive).",
    "",
    "  Args:",
    "      n (int): Upper limit (inclusive)",
    "",
    "  Returns:",
    "      list: Squares of even numbers from 0 to n",
    "",
    "  Examples:",
    "      even_squares(5) -> [0, 4, 16]  # squares of 0, 2, 4",
    "      even_squares(8) -> [0, 4, 16, 36, 64]  # squares of 0, 2, 4, 6, 8",
    "      even_squares(1) -> [0]  # only 0 is even from 0 to 1",
    "  \"\"\"",
    "  # TODO: Use list comprehension to solve this in one line",
    "  # Pattern: [expression for item in iterable if condition]",
    "  # You need: square the number, iterate through range, filter for even",
    "  pass"]
  solution := "\n".intercalate [
    "def even_squares(n):",
    "  \"\"\"Generate squares of even numbers from 0 to n using list comprehension.\"\"\"",
    "  return [x**2 for x in range(n+1) if x % 2 == 0]"]
  testCases := [
    ⟨.list [.int 5], .list [.int 0, .int 4, .int 16],
      some "Even squares from 0 to 5: [0², 2², 4²]", some "Even numbers 0,2,4 squared give 0,4,16"⟩,
    ⟨.list [.int 8], .list [.int 0, .int 4, .int 16, .int 36, .int 64],
      some "Even squares from 0 to 8: [0², 2², 4², 6², 8²]", some "Even numbers 0,2,4,6,8 squared give 0,4,16,36,64"⟩,
    ⟨.list [.int 0], .list [.int 0],
      some "Only 0 is even from 0 to 0", some "Range is just [0], 0 is even, 0² = 0"⟩,
    ⟨.list [.int 1], .list [.int 0],
      some "Only 0 is even from 0 to 1", some "Range is [0,1], only 0 is even, 0² = 0"⟩,
    ⟨.list [.int 10], .list [.int 0, .int 4, .int 16, .int 36, .int 64, .int 100],
      some "Even squares from 0 to 10", some "Even numbers 0,2,4,6,8,10 squared"⟩]
  points := 300
  hints := [
    "List comprehension syntax: [expression for item in iterable if condition]",
    "You need three parts: x**2 (square), range(n+1) (numbers 0 to n), x % 2 == 0 " ++
      "(even check)",
    "Remember range(n+1) to include n in the range (range is exclusive of the end)",
    "The modulo operator % checks divisibility: x % 2 == 0 means x is even",
    "Complete solution: [x**2 for x in range(n+1) if x % 2 == 0]"]
  learningObjectives := [
    "Master Python list comprehensions",
    "Understand filtering with conditions",
    "Practice mathematical operations in functional style"]
  commonMistakes := [
    "Using range(n) instead of range(n+1)",
    "Forgetting the condition 'if x % 2 == 0'",
    "Using x*x instead of x**2 (both work, but ** is more Pythonic)"]
  givenName := "even_squares"

-- The challenges that come with the game. A tile names its challenge by the place in this order.
def catalog : Catalog := ⟨arraySum, [countDown, evenSquares], by decide⟩

end ScriptArena.Bundled
