import ErpLens.Text.Lines

/-!
# Help texts

What the tools and their commands say about themselves.
-/

namespace ErpLens.Command

def suiteHelp : String :=
  Text.joinLines [
    "usage: main.py [-h] \x7banalyze,rag-init,rag-ask,rag-search\x7d ...", "",
    "ERPNext Code Analyzer + RAG System", "", "positional arguments:",
    "  \x7banalyze,rag-init,rag-ask,rag-search\x7d", "                        Commands",
    "    analyze             Analyze code", "    rag-init            Build RAG database",
    "    rag-ask             Ask question to RAG", "    rag-search          Search codebase", "",
    "options:", "  -h, --help            show this help message and exit", "", "Examples:",
    "  # Analyze single file", "  python main.py analyze sales_invoice.py", "  ",
    "  # Analyze folder", "  python main.py analyze ./erpnext --json", "  ",
    "  # Build RAG database", "  python main.py rag-init ./erpnext",
    "  python main.py rag-init sales_invoice.py", "  ", "  # Ask question to RAG",
    "  python main.py rag-ask \"What functions validate sales data?\"", "  ", "  # Search codebase",
    "  python main.py rag-search \"frappe.throw\"", "        "]

def analyzeHelp : String :=
  Text.joinLines [
    "usage: main.py analyze [-h] [--json] path", "", "positional arguments:",
    "  path        Path to Python file or folder", "", "options:",
    "  -h, --help  show this help message and exit", "  --json      Save to JSON"]

def collectionOptions : List String :=
  ["", "options:", "  -h, --help            show this help message and exit",
    "  --collection COLLECTION", "                        Collection name"]

def buildHelp : String :=
  Text.joinLines (["usage: main.py rag-init [-h] [--collection COLLECTION] path", "",
    "positional arguments:", "  path                  Path to Python file or folder"] ++
    collectionOptions)

def askHelp : String :=
  Text.joinLines (["usage: main.py rag-ask [-h] [--collection COLLECTION] [--file FILE]",
    "                       [--folder FOLDER]", "                       question", "",
    "positional arguments:", "  question              Question about the codebase"] ++
    collectionOptions ++ ["  --file FILE           Limit search to a specific file",
    "  --folder FOLDER       Limit search to a folder"])

def searchHelp : String :=
  Text.joinLines (["usage: main.py rag-search [-h] [--collection COLLECTION] keyword", "",
    "positional arguments:", "  keyword               Keyword to search"] ++ collectionOptions)

def analyzerHelp : String :=
  Text.joinLines [
    "usage: analyze.py [-h] [--json] path", "", "AI-Powered Python Code Analyzer (with Gemini)", "",
    "positional arguments:", "  path        Path to Python file or folder", "", "options:",
    "  -h, --help  show this help message and exit", "  --json      Save analysis to JSON", "",
    "Examples:", "  python analyze.py sales_invoice.py",
    "  python analyze.py sales_invoice.py --json", "  python analyze.py ./erpnext",
    "  python analyze.py ./accounts --json", "        "]

end ErpLens.Command
