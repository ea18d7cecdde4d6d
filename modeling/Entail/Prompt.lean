/-
Entail/Prompt.lean

The texts that a language model is asked with.

A first request spells out what a sketch looks like.  Later requests carry feedback on the attempt
before and only name the parts of a sketch.
-/

namespace Entail.Prompt

/-- The role a model is given when it is asked for a sketch. -/
def sketchRole : String := "You are a logic reasoning assistant that outputs DSL in JSON."

/-- The role a model is given when it is asked for a plain answer. -/
def answerRole : String := "You are a logic reasoning assistant."

/-- What a sketch looks like, line by line. -/
def instructions : List String :=
  ["Generate a reasoning sketch in JSON format with keys:",
    "- vars: list of variable names (Boolean atoms)",
    "- rules: list of rules (kind fact or imply)",
    "  Facts: \x7b\"kind\": \"fact\", \"subject\": \"atom\"\x7d asserts the atom is true;",
    "  add \"value\": false to assert it is false.",
    "  For imply rules, you can use either format:",
    "  1. \x7b\"kind\": \"imply\", \"subject\": \"premise\", \"object\": \"conclusion\"\x7d",
    "  2. \x7b\"kind\": \"imply\", \"if\": [\"premise1\", \"premise2\"], " ++
      "\"then\": \"conclusion\"\x7d",
    "  Add \"value\": false to an imply rule to conclude that the conclusion is false.",
    "- query: the atom to be evaluated",
    "",
    "Example for syllogism \"All humans are mortal, Socrates is human, " ++
      "therefore Socrates is mortal\":",
    "\x7b",
    "  \"vars\": [\"human_Socrates\", \"mortal_Socrates\"],",
    "  \"rules\": [",
    "    \x7b\"kind\": \"fact\", \"subject\": \"human_Socrates\"\x7d,",
    "    \x7b\"kind\": \"imply\", \"if\": [\"human_Socrates\"], \"then\": \"mortal_Socrates\"\x7d",
    "  ],",
    "  \"query\": \"mortal_Socrates\"",
    "\x7d",
    "",
    "Only output valid JSON, no other text."]

/-- The request for a sketch: a first one, or one that follows up on feedback. -/
def sketch (question : String) : Option String → String
  | none => "Question: " ++ question ++ "\n" ++ "\n".intercalate instructions
  | some feedback =>
    "Question: " ++ question ++ "\nBased on feedback: " ++ feedback ++
      "\nGenerate a reasoning sketch in JSON with keys: vars, rules, query."

end Entail.Prompt
