import MemoAssist.Text.Quoted

namespace MemoAssist.Prompt

def tagInstructions : String :=
  "You are a helpful assistant that suggests relevant tags for notes and memos.\n" ++
  "Analyze the content and suggest concise, relevant tags that capture the main topics.\n" ++
  "Return ONLY a JSON array of tag strings, nothing else. Example: [\"project\", \"meeting\", \"todo\"]\n" ++
  "Tags should be lowercase, single words or hyphenated phrases (e.g., \"machine-learning\")."

/-- The hints stand between the request and the content, and only if there is something to hint. -/
def tagRequest (content : String) (maxTags : Int) (existing : List String) (language : String) :
    String :=
  let known :=
    if existing.isEmpty then ""
    else "\nPrefer using these existing tags when relevant: " ++ Text.quotedList existing
  let tongue := if language = "" then "" else "\nWrite the tags in this language: " ++ language
  "Suggest up to " ++ toString maxTags ++ " tags for this content:" ++ known ++ tongue ++
    "\n\nContent:\n" ++ content

def summaryInstructions (style : String) (maxLength : Int) : String :=
  "You are a helpful assistant that summarizes content.\n" ++
  "Create a " ++ style ++ " summary that captures the main points.\n" ++
  "Keep the summary under " ++ toString maxLength ++ " characters.\n" ++
  "Be concise and informative."

def summaryRequest (content : String) : String := "Summarize this content:\n\n" ++ content

end MemoAssist.Prompt
