import Snippet.Text.Basic

/-! Example snippets. -/

set_option autoImplicit false

namespace Snippet

inductive Sample where
  | mixed
  | javascript
  | css
  deriving DecidableEq, Repr

namespace Sample

def all : List Sample := [mixed, javascript, css]

def name : Sample → Text
  | mixed => "mixed".toList
  | javascript => "javascript".toList
  | css => "css".toList

def ofName? (name : Text) : Option Sample := all.find? (·.name = name)

def lines : Sample → List String
  | mixed =>
    [ "<!DOCTYPE html>",
      "<html>",
      "<head>",
      "    <title>Sample page</title>",
      "    <style>",
      "        body \x7b",
      "            background: #f0f0f0;",
      "            font-family: Arial, sans-serif;",
      "        \x7d",
      "        .container \x7b",
      "            max-width: 1200px;",
      "            margin: 0 auto;",
      "            padding: 20px;",
      "        \x7d",
      "    </style>",
      "</head>",
      "<body>",
      "    <div class=\"container\">",
      "        <h1>Welcome to codekit</h1>",
      "        <button onclick=\"showMessage()\">Click me</button>",
      "    </div>",
      "",
      "    <script>",
      "        function showMessage() \x7b",
      "            // show a greeting",
      "            alert('Hello, World!');",
      "            console.log('Button clicked');",
      "        \x7d",
      "",
      "        // page finished loading",
      "        document.addEventListener('DOMContentLoaded', function() \x7b",
      "            console.log('Page loaded');",
      "        \x7d);",
      "    </script>",
      "</body>",
      "</html>" ]
  | javascript =>
    [ "// Fibonacci sequence",
      "function fibonacci(n) \x7b",
      "    if (n <= 1) return n;",
      "    return fibonacci(n - 1) + fibonacci(n - 2);",
      "\x7d",
      "",
      "// Sort an array of numbers",
      "function sortArray(arr) \x7b",
      "    // numeric comparison",
      "    return arr.sort((a, b) => a - b);",
      "\x7d",
      "",
      "// Click listener",
      "document.addEventListener('click', function(e) \x7b",
      "    console.log('Clicked element:', e.target);",
      "\x7d);" ]
  | css =>
    [ "/* Basic reset */",
      "* \x7b",
      "    margin: 0;",
      "    padding: 0;",
      "    box-sizing: border-box;",
      "\x7d",
      "",
      "/* Page body */",
      "body \x7b",
      "    background-color: #f5f5f5;",
      "    font-family: 'Arial', sans-serif;",
      "    line-height: 1.6;",
      "\x7d",
      "",
      "/* Container */",
      ".container \x7b",
      "    max-width: 1200px;",
      "    margin: 0 auto;",
      "    padding: 20px;",
      "\x7d",
      "",
      "/* Buttons */",
      ".btn-primary \x7b",
      "    background: linear-gradient(135deg, #667eea 0%, #764ba2 100%);",
      "    color: white;",
      "    border: none;",
      "    padding: 10px 20px;",
      "    border-radius: 5px;",
      "    cursor: pointer;",
      "\x7d" ]

def text (sample : Sample) : Text := Text.join ['\n'] (sample.lines.map String.toList)

end Sample

end Snippet
