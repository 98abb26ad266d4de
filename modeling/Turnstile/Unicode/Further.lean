import Turnstile.Unicode.Runs

/-! Further yes-or-no properties of characters, which have no use but in expressions. -/
namespace Turnstile.Unicode.Further

/-- The names of each property, in lower case and without separators, and its table. -/
private def all : Array (List String × List String) :=
  #[
    (["ahex", "asciihexdigit"],
     ["1cNaY7N6YqN6YnvkpN"]),
    (["bidic", "bidicontrol"],
     ["17gNY54hN2YqN5Y1jN4Ynp92N"]),
    (["bidim", "bidimirrored"],
     ["14N2YiNYNYsNYNYtNYNY19NYfNY2v2N4Y1gdN2Y1wcN2YaN2Y1iN2YeN2Y4xNY5cN4Y3N6Y3NY3N2Y3N4YN4YNYNY4N9",
      "Y5NYNiY5N4Y9N2YNYN8Y2NvY2N4Y5NY9N2Y2NjY5N2Y9N5Y2N2Y4NoY2NgY8N4YkN2Y7N2Yu5NeY22NY2N4YN2YN3Y5N",
      "4Y5N3Y3NeYb7NmY2N6YNeY8NY7N6Y3NY4N5YN2Y2N5Y4NYN3Y2N2YaN6Y2N2YcNjYN4Y2NYNY2NYN4Y5N2Y6N3YoN2Yb",
      "N2Y4N4YN2Y2N2Y4N17Y2N8YN14Y5NYNY3N5Y5N3Y4NY3N5YNY74NYebN4Y3N2YN2YeN2Y2NaY17N8YbvNaY2N8Y14qlN",
      "6Y5N2Y4iN2YiNYNYsNYNYtNYNYN2YN2Y16k7NY1lNY1lNY1lNY1lNYlagsN"]),
    (["changeswhencasefolded", "cwcf"],
     ["1tNqY2iNYaNnYN8YwNYNYNYNYNYNYNYNYNYNYNYNYNYNYNYNYNYNYNYNYNYNYNYNYNYNYNYNY2NYNYNYNYNYNYNYNYN2",
      "YNYNYNYNYNYNYNYNYNYNYNYNYNYNYNYNYNYNYNYNYNYNYN2YNYNYNYN2YNYN2YN3Y2N4YN2YN3Y3N2YN2YNYNYN2YNY2",
      "NYN2YN3YNYN2Y3NY7N2YN2YN2YNYNYNYNYNYNYNYNY2NYNYNYNYNYNYNYNYNY2N2YNYN3YNYNYNYNYNYNYNYNYNYNYNY",
      "NYNYNYNYNYNYNYNYNYNYNYNYNYNYNYNYNYNY7N2YN2Y2NYN4YNYNYNYNY6uNY16NYNY3NY8NY6NYN3YNYN2YNhYN9YmN",
      "YcN3Y3N2YNYNYNYNYNYNYNYNYNYNYNYNYN2Y2N2YNYN2Y2N1fY1cNYNYNYNYNYNYNYNYNYNYNYNYNYNYNYNYNY9NYNYN",
      "YNYNYNYNYNYNYNYNYNYNYNYNYNYNYNYNYNYNYNYNYNYNYNYNYN2YNYNYNYNYNYNY2NYNYNYNYNYNYNYNYNYNYNYNYNYN",
      "YNYNYNYNYNYNYNYNYNYNYNYNYNYNYNYNYNYNYNYNYNYNYNYNYNYNYNYNYNYNYNYNYNYNY2N12Y1cNY26wN12YNY5NYmi",
      "N6Y1oiN9Y7N17Y2N3Y8wNYNYNYNYNYNYNYNYNYNYNYNYNYNYNYNYNYNYNYNYNYNYNYNYNYNYNYNYNYNYNYNYNYNYNYNY",
      "NYNYNYNYNYNYNYNYNYNYNYNYNYNYNYNYNYNYNYNYNYNYNYNYNYNYNYNYNYNYNYNYNYNYNYNYNYNYNY5N2Y2NYNYNYNYN",
      "YNYNYNYNYNYNYNYNYNYNYNYNYNYNYNYNYNYNYNYNYNYNYNYNYNYNYNYNYNYNYNYNYNYNYNYNYNYNYNYNYNYNYNYNY9N8",
      "Y8N6YaN8Y8N8Y8N6YbNYNYNYNY8N8YgN1cY2N3Y2N6Y5N3Y2N6YbN4YcN5Y5N3Y2N6Y89NY3N2Y6NY19NgYjNYmqNqY1",
      "f4N1cY1cNYN3Y2NYNYNYN4YNY2NY8N3YNYNYNYNYNYNYNYNYNYNYNYNYNYNYNYNYNYNYNYNYNYNYNYNYNYNYNYNYNYNY",
      "NYNYNYNYNYNYNYNYNYNYNYNYNYNYNYNYNYNYNY8NYNY4NYnylNYNYNYNYNYNYNYNYNYNYNYNYNYNYNYNYNYNYNYNYNYN",
      "YNYjNYNYNYNYNYNYNYNYNYNYNYNYNYNY3rNYNYNYNYNYNYNY3NYNYNYNYNYNYNYNYNYNYNYNYNYNYNYNYNYNYNYNYNYN",
      "YNYNYNYNYNYNYNYNYNYaNYNYN2YNYNYNYNY4NYNY2NYNY3NYNYNYNYNYNYNYNYNYNYN5YN5YNYNYNYNYNYNYNYN4YNY6",
      "NY5NYNYsNYoqN28YfnkN7YcN5YspNqYxxN14Y3sN10Y4cNbYNfYN7YN2Y1d6N1fY2ctNwYgw0NwYo80NyYl71aN"]),
    (["changeswhencasemapped", "cwcm"],
     ["1tNqY6NqY1mNYaNnYNvYN1sYN2cYNdYNeY2NeY2N2YNY4N2lYNiY6NrYN2YNYN2Y3N2YNYN2YN5Y2NYN2Y2NY7NY2NYN",
      "2Y3N6Y5NYaN2Y4mNY16N4Y2N2Y3N3YNY6NYN3YNYNkYN1bY3NxYN5YN3pY8N4mYN12YaN13Y26wN12YNY5NY2N17Y2N3",
      "YioN2eY2N6Y1oiN9Y7N17Y2N3Y55NY3NYgNY35N4cY2NYN3aY2N6Y2N12Y2N6Y2N8YNYNYNYNvY2N1hYN7YNY3N3YN7Y",
      "3N4Y2N6Y4NdY5N3YN7Y89NY3N2Y6NYrNYhNwY3N2YmpN1gY1eeN35YN2YN2Y7N2uY7N4Y3N2YcN12YNY5NYnwyN1aYiN",
      "sY3qNeY2N1qY9NfY3N3Y2N5YNpYNrY5N2Y4N4YrN2YnwNYsN28YfnkN7YcN5YspNqY6NqYx1N28Y2oN10Y4N10Y38NbY",
      "NfYN7YN2YNbYNfYN7YN2Y1c3N1fYdN1fY2b1N1sYgv4N1sYo74N1wYl70cN"]),
    (["changeswhenlowercased", "cwl"],
     ["1tNqY2tNnYN7YxNYNYNYNYNYNYNYNYNYNYNYNYNYNYNYNYNYNYNYNYNYNYNYNYNYNYNYNY2NYNYNYNYNYNYNYNY2NYNY",
      "NYNYNYNYNYNYNYNYNYNYNYNYNYNYNYNYNYNYNYNYNYN2YNYNY3N2YNYN2YN3Y2N4YN2YN3Y3N2YN2YNYNYN2YNY2NYN2",
      "YN3YNYN2Y3NY7N2YN2YN2YNYNYNYNYNYNYNYNY2NYNYNYNYNYNYNYNYNY2N2YNYN3YNYNYNYNYNYNYNYNYNYNYNYNYNY",
      "NYNYNYNYNYNYNYNYNYNYNYNYNYNYNYNY7N2YN2Y2NYN4YNYNYNYNY81NYNY3NY8NY6NYN3YNYN2YNhYN9YzNY8NYNYNY",
      "NYNYNYNYNYNYNYNYNY5NY2NYN2Y2N1fY1cNYNYNYNYNYNYNYNYNYNYNYNYNYNYNYNYNY9NYNYNYNYNYNYNYNYNYNYNYN",
      "YNYNYNYNYNYNYNYNYNYNYNYNYNYNYNYN2YNYNYNYNYNYNY2NYNYNYNYNYNYNYNYNYNYNYNYNYNYNYNYNYNYNYNYNYNYN",
      "YNYNYNYNYNYNYNYNYNYNYNYNYNYNYNYNYNYNYNYNYNYNYNYNYNY2N12Y289N12YNY5NYk2N2eY1p6N17Y2N3Y8wNYNYN",
      "YNYNYNYNYNYNYNYNYNYNYNYNYNYNYNYNYNYNYNYNYNYNYNYNYNYNYNYNYNYNYNYNYNYNYNYNYNYNYNYNYNYNYNYNYNYN",
      "YNYNYNYNYNYNYNYNYNYNYNYNYNYNYNYNYNYNYNYNYNYNYNYNYNYNY9NYNYNYNYNYNYNYNYNYNYNYNYNYNYNYNYNYNYNY",
      "NYNYNYNYNYNYNYNYNYNYNYNYNYNYNYNYNYNYNYNYNYNYNYNYNYNYNYNYNYNY9N8Y8N6YaN8Y8N8Y8N6YbNYNYNYNY8N8",
      "YoN8Y8N8Y8N8Y8N5YbN5YbN4YcN5YbN5Y89NY3N2Y6NY19NgYjNYmqNqY1f4N1cY1cNYN3Y2NYNYNYN4YNY2NY8N3YNY",
      "NYNYNYNYNYNYNYNYNYNYNYNYNYNYNYNYNYNYNYNYNYNYNYNYNYNYNYNYNYNYNYNYNYNYNYNYNYNYNYNYNYNYNYNYNYNY",
      "NYNY8NYNY4NYnylNYNYNYNYNYNYNYNYNYNYNYNYNYNYNYNYNYNYNYNYNYNYNYjNYNYNYNYNYNYNYNYNYNYNYNYNYNY3r",
      "NYNYNYNYNYNYNY3NYNYNYNYNYNYNYNYNYNYNYNYNYNYNYNYNYNYNYNYNYNYNYNYNYNYNYNYNYNYNYaNYNYN2YNYNYNYN",
      "Y4NYNY2NYNY3NYNYNYNYNYNYNYNYNYNYN5YN5YNYNYNYNYNYNYNYN4YNY6NY5NYNYsNYh7vNqYxxN14Y3sN10Y4cNbYN",
      "fYN7YN2Y1d6N1fY2ctNwYgw0NwYo80NyYl71aN"]),
    (["changeswhentitlecased", "cwt"],
     ["2pNqY1mNY15NoYN8YNYNYNYNYNYNYNYNYNYNYNYNYNYNYNYNYNYNYNYNYNYNYNYNYNYNYNYNY2NYNYNYNYNYNYNYN2YN",
      "YNYNYNYNYNYNYNYNYNYNYNYNYNYNYNYNYNYNYNYNYNYNY2NYNYN3Y2NYNY2NY3NY5NY2NY3N2Y3NY2NYNYNY2NY4NY2N",
      "Y3NYNY2NY3NYNY4NYN2YN2YNYNYNYNYNYNYNYNYN2YNYNYNYNYNYNYNYNYN3YNYNY3NYNYNYNYNYNYNYNYNYNYNYNYNY",
      "NYNYNYNYNYNYNY3NYNYNYNYNYNYNYNYNY8NY2N2YNY4NYNYNYNYN6YN2YNYN2Y3N2YNYN2YN5Y2NYN2Y2NY7NY2NYN2Y",
      "3N6Y5NYaN2Y4mNY17NYNY3NY3N3YiNYrNzYN2Y3N3YNYNYNYNYNYNYNYNYNYNYNYN5YNY2NY2NY1gN1cYNYNYNYNYNYN",
      "YNYNYNYNYNYNYNYNYNYNYNY9NYNYNYNYNYNYNYNYNYNYNYNYNYNYNYNYNYNYNYNYNYNYNYNYNYNYNY2NYNYNYNYNYNYN",
      "2YNYNYNYNYNYNYNYNYNYNYNYNYNYNYNYNYNYNYNYNYNYNYNYNYNYNYNYNYNYNYNYNYNYNYNYNYNYNYNYNYNYNYNYNYNY",
      "NYNYNY1dN13Y2uoN6Y1oiN9Y6oNY3NYgNY36NYNYNYNYNYNYNYNYNYNYNYNYNYNYNYNYNYNYNYNYNYNYNYNYNYNYNYNY",
      "NYNYNYNYNYNYNYNYNYNYNYNYNYNYNYNYNYNYNYNYNYNYNYNYNYNYNYNYNYNYNYNYNYNYNYNYNYNYNYNYNYNYNYNYNYNY",
      "N7Y5NYNYNYNYNYNYNYNYNYNYNYNYNYNYNYNYNYNYNYNYNYNYNYNYNYNYNYNYNYNYNYNYNYNYNYNYNYNYNYNYNYNYNYNY",
      "NYNYNYN9Y8N6YaN8Y8N8Y8N6YaN8Y8N8Y8NeY2N8Y8N8Y8N8Y8N5YN2Y6NY3N3YN2Y8N4Y2N2Y8N8YaN3YN2Y9iNYxNg",
      "Y4NYnfNqY1fqN1cYNY3N2YNYNYNY6NY2NYaNYNYNYNYNYNYNYNYNYNYNYNYNYNYNYNYNYNYNYNYNYNYNYNYNYNYNYNYN",
      "YNYNYNYNYNYNYNYNYNYNYNYNYNYNYNYNYNYNYNYNYNY8NYNY4NYcN12YNY5NYnwzNYNYNYNYNYNYNYNYNYNYNYNYNYNY",
      "NYNYNYNYNYNYNYNYNYjNYNYNYNYNYNYNYNYNYNYNYNYNYNY3rNYNYNYNYNYNYNY3NYNYNYNYNYNYNYNYNYNYNYNYNYNY",
      "NYNYNYNYNYNYNYNYNYNYNYNYNYNYNYNYNYaNYNY2NYNYNYNYNY4NY4NYN2Y2NYNYNYNYNYNYNYNYNYNYbNYNYNYNYNYN",
      "YNYNY4NYNY6NY5NYNYsNYnwNYsN28YfnkN7YcN5YtlNqYy5N14Y3sN10Y4bNbYNfYN7YN2Y1dvN1fY2bxNwYgw0NwYo8",
      "2NyYl70cN"]),
    (["changeswhenuppercased", "cwu"],
     ["2pNqY1mNY15NoYN8YNYNYNYNYNYNYNYNYNYNYNYNYNYNYNYNYNYNYNYNYNYNYNYNYNYNYNYNY2NYNYNYNYNYNYNYN2YN",
      "YNYNYNYNYNYNYNYNYNYNYNYNYNYNYNYNYNYNYNYNYNYNY2NYNYN3Y2NYNY2NY3NY5NY2NY3N2Y3NY2NYNYNY2NY4NY2N",
      "Y3NYNY2NY3NYNY5N2YN2YN2YNYNYNYNYNYNYNYN2YNYNYNYNYNYNYNYNYN2YN2YNY3NYNYNYNYNYNYNYNYNYNYNYNYNY",
      "NYNYNYNYNYNYNY3NYNYNYNYNYNYNYNYNY8NY2N2YNY4NYNYNYNYN6YN2YNYN2Y3N2YNYN2YN5Y2NYN2Y2NY7NY2NYN2Y",
      "3N6Y5NYaN2Y4mNY17NYNY3NY3N3YiNYrNzYN2Y3N3YNYNYNYNYNYNYNYNYNYNYNYN5YNY2NY2NY1gN1cYNYNYNYNYNYN",
      "YNYNYNYNYNYNYNYNYNYNYNY9NYNYNYNYNYNYNYNYNYNYNYNYNYNYNYNYNYNYNYNYNYNYNYNYNYNYNY2NYNYNYNYNYNYN",
      "2YNYNYNYNYNYNYNYNYNYNYNYNYNYNYNYNYNYNYNYNYNYNYNYNYNYNYNYNYNYNYNYNYNYNYNYNYNYNYNYNYNYNYNYNYNY",
      "NYNYNY1dN13Y288N17Y2N3Yl4N6Y1oiN9Y6oNY3NYgNY36NYNYNYNYNYNYNYNYNYNYNYNYNYNYNYNYNYNYNYNYNYNYNY",
      "NYNYNYNYNYNYNYNYNYNYNYNYNYNYNYNYNYNYNYNYNYNYNYNYNYNYNYNYNYNYNYNYNYNYNYNYNYNYNYNYNYNYNYNYNYNY",
      "NYNYNYNYNYN7Y5NYNYNYNYNYNYNYNYNYNYNYNYNYNYNYNYNYNYNYNYNYNYNYNYNYNYNYNYNYNYNYNYNYNYNYNYNYNYNY",
      "NYNYNYNYNYNYNYNYN9Y8N6YaN8Y8N8Y8N6YaN8Y8N8Y8NeY2N1hYN2Y4NYNY3N3YN2Y4NY3N4Y2N2Y8N8YaN3YN2Y4NY",
      "9dNYxNgY4NYnfNqY1fqN1cYNY3N2YNYNYNY6NY2NYaNYNYNYNYNYNYNYNYNYNYNYNYNYNYNYNYNYNYNYNYNYNYNYNYNY",
      "NYNYNYNYNYNYNYNYNYNYNYNYNYNYNYNYNYNYNYNYNYNYNYNYNY8NYNY4NYcN12YNY5NYnwzNYNYNYNYNYNYNYNYNYNYN",
      "YNYNYNYNYNYNYNYNYNYNYNYNYjNYNYNYNYNYNYNYNYNYNYNYNYNYNY3rNYNYNYNYNYNYNY3NYNYNYNYNYNYNYNYNYNYN",
      "YNYNYNYNYNYNYNYNYNYNYNYNYNYNYNYNYNYNYNYNYaNYNY2NYNYNYNYNY4NY4NYN2Y2NYNYNYNYNYNYNYNYNYNYbNYNY",
      "NYNYNYNYNYNY4NYNY6NY5NYNYsNYnwNYsN28YfnkN7YcN5YtlNqYy5N14Y3sN10Y4bNbYNfYN7YN2Y1dvN1fY2bxNwYg",
      "w0NwYo82NyYl70cN"]),
    (["defaultignorablecodepoint", "di"],
     ["4tNYipNYjwNY282N2Y18zN2Y2dN5Y1krN5YqN5Y1dNgY3ckNY14ezNgY6nNY4gNY27N9Y119jN4Y43zN8Yh405N35sY4",
      "4jkN"]),
    (["dep", "deprecated"],
     ["95NY10pNY1s3NYNY1m1N2Y1qdN6YjdN2Yjh06NY47paN"]),
    (["dia", "diacritic"],
     ["2mNYNY1zNY6NY4NY2N2YdzN4fYN8Y5N6YhN2Y4NY9N2Y71N5Y5tNY1jNhYNrYNYN2YNY3qN8Y4N2Y3qN2Y4N2Y3N3Y1v",
      "NrY2jNbY1mNbYyN2Y3iN8Y15NaYgNsY1pNYgNY3N4YsNY22NYgNY32NYgNY32NYgNY1bN3Y1oNYgNY7NY3bNY32NYgNY",
      "32NYgNY31N2YgNY3gNY3gN6YNY2zNYdN5Y23N2YrNYNYNY4N2Y1uN3YN2Y1qNY34NYN2Y14N2Y4N5YpN7YNYaN2YjlN3",
      "YqcN2Y4zNbY9NY9nN3Y8pN8Y2NY1cNfY2NbY2wNYfNY12N9Y1iN2Y3uN2Y1sN6Y2aNpY4NY6NY2N3Y1eN1rY2hNcY11N",
      "bYcdNYN3YbN3YdN3YdN3YdN2Y2k0N3Y8tNYe2N6Y2xN4Y2nNYn76NYcN2YNYsN2Y2aN2YeNyY2uN3Y31N2Y5mNYrNiY1",
      "lN4Y10NY2nNYcNY10NY45N3Y1tN4Y1fNY2sN5Y9N3Y3kN2Yfn4NYldNgY7iNYNY1bNY19N2Y1vNYl8NYwvN6YN16YN9Y",
      "miN2YfvN6Yd1N3Y1yNbY1dN4Y5cNY15NY20N2Y3cN2Y1qNY24NY9N3Y2wN2Y4yN2Y29NYgNYoN7Y3N5Y5pNY3NY3fN2Y",
      "6zN2Y3iNY3aN2Y37NY7hN2Y76N2Y4NY4cNY2bNYiNY29NYbpNY76NYN2Y29NY4hbNfYasaN5Y1nN7YuwNhY28N2Ycn2N",
      "4YN7YN2Y64hN1aY2NnYf4N3Y3N6Y8N8Y2N7YuN4Y2v6N1qY5eN7YafNY1pN4Y15sN7Y31N3YN3Yl705N"]),
    (["ecomp", "emojicomponent"],
     ["zNY6NY5NaY6abNY5xNY17orNY1c5yNqYe3N5Y14gN4Ygw30N2oY47lsN"]),
    (["emod", "emojimodifier"],
     ["2qrfN5Yl4w0N"]),
    (["ebase", "emojimodifierbase"],
     ["7j1NY63NYgN4Y2iyfNY1oN3Y2NY2N3Y39N2Y2NbYlNjY3NY4N3YN3Y7NYNYoNY5lN2Y4NYlNY4N2Y4uN3Y3N5Y2bNYgN",
      "3Y9NYbNYfzNY2NY8N8Y6NY9NaY2N3Y1kNY1pN2YN2YNYhN3YNdY6dN3Y16N9Yl3ifN"]),
    (["emojipresentation", "epres"],
     ["6xmN2Y5pN4Y3NY2NYehN2YlN2Y1eNcY17NYjNYdNY8N2YhN2Y5N2Y8NY5NYlNY7N2YNY4NY2NY7NY4N2YsNYzNYNY4N3",
      "YNY1pN3YoNYeNYnvN2Y1fNY4NY2hf2NY5mNY5aNY2NaY23NqYNYoNYkNY2N5YN3YlN2Y4uNxYcN9YN1yYNmYcN17Y4N5",
      "YcNhY3NY3N1zYNYN57Y2N1rYdN4YNoYiNYqN2YdNY2eN2dY1cN1yY6NY3N3Y2N3Y4N4YbN2Y7N9Y6bNcY4NY7vN1bYNa",
      "YN55Y34NdY3N9Y7N1aYN7Y8NeY4N9Y7N9Yl3ifN"]),
    (["extendedpictographic", "extpict"],
     ["4pNY4NY68dNYcNY60NYmNY2iN6YfN2Ya7N2YcNY2nNY1yNYpNbY4N3Y5jNY6fN2YaNY9NY1mN4YN6YNcYN36YaN3aY2N",
      "bYNYNY6NY3NY6NYaN2YfNY2NY4NYNY4N3YNYbN5Y19N3Y9NYeNYeNYacN2YcvN3YjN2Y1fNY4NYyiNYcNYgpNYNY2fza",
      "N74YdN3YvNY1oN6YcN2YeNY2NaYiN1lYrNfYaNYkNY2N9YN4Y9Nc2Y5N8uY8N7eY1cN3kY38NcY2dN17YcN4Y1kN8YaN",
      "6Y14N8YuN2aYcN1bYNaYNc9Y74NseYl2iqN"]),
    (["ext", "extender"],
     ["53NYewN2YoeNYc9NYnuNYkwNY3jNY1tvNY1kNYgzNYb2NY1wNY3uxNY17N5Y2vN2Y2lN3YlxyNY16eNYqqNYmNY3tNY3",
      "0NYlN2YgorNY1lcN2Y2caNYh4N3Yy7NYfxlN2YwsN2YNYme0N2Y1l2N3Yl709N"]),
    (["graphemebase", "grbase"],
     ["wN2nYxNdYNgiY34N8Y2N6Y4N7YNYNkYN68Y7N4mYN12Y2N1eY2N3Y1aNYNY2NY2NY9NrY4N6YhNaYbNYN1aYlNgYN2tY",
      "8NY6N2Y2NY4NwY2NYNuYtN2hYbNYeN17Y9N7Y3NoY4NY9NY3NY7NfYNpY5NYNbY5NvYhN16Y1lN1jYNYN4Y8N4YN3Y7N",
      "aY2NtYN2YN8Y2N2Y2NmYN7YNY3N4Y3NYN2Y6N2Y2N2YNYdN2YN3Y4NoY5NYN6Y4N2Y2NmYN7YN2YN2YN2Y4N3YoN4YNY",
      "7NaY2N3YNYcNYN9YN3YNmYN7YN2YN5Y3N4Y8NYN2Y3NYfN2Y4NcY7NY8N2YN8Y2N2Y2NmYN7YN2YN5Y3NY2NY6N2Y2N2",
      "YfN2YN3Y4NiYbNYN6Y3N3YN4Y3N2YNYN2Y3N2Y3N3Y3NcY5NYN2Y3N3YN3Y3NYlNlY6N3YN8YN3YNnYNgY3NY3N4YjN3",
      "Y2NY2N2Y4NaY7NaYNbYN3YNnYNaYN5Y3N2YN2YN2Y2N2YN2YhN2YN2Y4NaYN3YeNbYN3YN15Y2NYN2Y5N3YN3YN2Y4N3",
      "YNaY4NqY2N2YNiY3NoYN9YNY2N7Y9N2Y6N7Y7NaY2N3YcN1cYN2YbN8Y8NdY11N2YNYN5YNoYNYNaYN2Y9NY2N5YNY9N",
      "aY2N4YwNoY2NrYNYNYNeYN10YiNY5NY2N5Y1dN8YN6YNdY11N19Y4NY6NY2N2Y2NpY2N4Y3NgY4NdYN2Y2N6YNfYN14Y",
      "NY5NY2NahYN4Y2N7YNYN4Y2N15YN4Y2NxYN4Y2N7YNYN4Y2NfYN1lYN4Y2N1vY5NtY3NqY6N2eY2N6Y2NilY3N2hY7Ni",
      "Y3NY9NjY2N3Y9NiYeNdYN3YfN1gY2NY7N8YN2YbN9Y3NaY6NaY6NbY5NaY6N2hY7N5Y2NyYNY5N1yYaNvY4N4Y2N3Y4N",
      "2YN6Y7NY3N16Y2N5YbN18Y4NqY6NbY3N1lY2N2Y3N1kYNY9NYN2Y8N6YdNaY6NaY6NeY2eN1cY7NYN5YNaY3NrY9NbY3",
      "NwY4N2Y2NY3N1kYNY2N3YNY3N2Y8N1cY8N2Y5NfY3N1oY7N17Y2NbYbNYdNY7N4YN6YN3Y2NY5N5cY1sN7qY2N6Y2N12",
      "Y2N6Y2N8YNYNYNYNvY2N1hYNfYNeY2N6YNjY2N3YN9YNbY5NoY7N1dYgN2Y2NrYNdY3NxY1rN3wY4NifYpNbYlN1ecY2",
      "NwYN9kY3N2Y5N19YNY5NY2N1kY7N2YfNnY9N7YN7YN7YN7YN7YN7YN7YN7YxN2mYyNqYN2hYcN5yYqNcY4N16Y6NgYN2",
      "eY4N2tY5N17YN2mYN2cYcN1bYNmlpY3N1jY9N9oYkN1bY4NYaNwY2N28Y2N6Y8N5nY5N2YNYN5YoNgYN3YN4YNpY2N5Y",
      "4NaY6N1kY8N1wYaNcYoNdYN12Y8NpYbN2YbNuY6N1cYN2Y4N2Y2NgYNbY4N7YNpYN15Y6N2Y2N2YbN3YN8YNY2NaY2Nw",
      "YN1fYNY3N2Y2N5Y2NYNYoNhY2N8YbN6Y2N6Y2N6Y9N7YN7YN1oY4N39YN2YN4Y3NaY6N8mcYcNnY4N1dY6isNa6Y2N2y",
      "Y12N7YcN5Y5NYNoYN5YNYN2YN2YN3hYgNcdY2N1iY7NYwNgYgNaYmNzYNjYN4Y4N5YN3rY4N4dY2NvY3N6Y2N6Y2N6Y2",
      "N3Y3N7YN7YdN2Y2NcYNqYNjYN2YNfY2NeYyN3fY5N3Y4N19Y3N2gYNdY3NY1bN19Y3nNtY3N1dYgNrY4N10Y9NuY5N12",
      "YaNuYN11Y4NeY16N4eY2NaY6N10Y4N10Y4N14Y8N1gYbNcYNfYN7YN2YNbYNfYN7YN2Y1vN8nY9NmYaN8YoN6YN16YN9",
      "Y1xN6Y2NYN18YN2Y3NY2NnYN20Y8N9Y1cNjYN2Y5NxY3NrY5NY1sN1kY4NkY2N1bYfN4YN3YNtYaN9Y7N9Y7N1sYwN11",
      "Y6NcY9N1iY3NtY2NrY5NqY7N4YcN7Y28N21Y1jN1fYdN1fY7N16YcNaY86NvYN16Y3NY2N2Y26N14Y8NmYbN9YmNiY4N",
      "4Y12NsYkNnY9NYN1iYfN7Y4NuYN2Y2NYcN1dY4N2Y2N2YN4YeNpY7NaY9N10Y5NY9NiY8NzYN3YbN1gY9NaY4N2YNgYN",
      "kYbNiYNsY3N2YNY2N6YN2Y1rN7YNYN4YNfYNbY6N1bYN3YdNaY8N2YN8Y2N2Y2NmYN7YN2YN5Y3NYNYN4Y2N2Y2N3Y2N",
      "YcN7Y4cN1kY8N2Y3NYNlYNYN3YuN1cYN2Y6NYN2YNY2NY2N4Y8NaY4mN1bYN2Y6N4Y2NY2NrY10N1fY8N2YNY2N4YbNa",
      "Y6NdYjN17YNYN2Y6NYN2Y6NaY1iNrY5N2Y4NY9NnY55N1bY9NY2NY2sN2bYcN8Y2NY2N8YN2YNoYN5YN2Y4NYN4YN3Y9",
      "NaY1yN8Y2N16Y8N4YN4YrNYaN14Y6N2Y4N8Y9NY6N2Y3N1aYdNY2N9YdN21Y7NaY6uN9YN12YeNYN6YaNtY3NwYpNY7N",
      "Y2NY23N7YN2YN12YlNY9NaY6N6YN2YN11Y4N2YNYNY7NaY8mNjY2N4Y9NfYN10Y8N2YNYNnY2eNYfN1eYdNpnY2uN33Y",
      "N5YbN5gY218N2rYdNtsYhN6Y33tNg7Y6ntNftY7NvYNaY4N29YNaY6NuY7NYaN1cY7NfYaNaYN7YNlY5NjYj4N2jY2tN",
      "23Y5N1kYbNdY1sN4YcN2YeN4qgY8NyeY16N9Y6w7N4YN7YN2YN83YfNYtN3Y2NYeN4Y8Nb0Y1s4N2zY5NdY3N9Y7NaY2",
      "NY2NY3owN38Y1oN6uYaN13Y2N1oYNY3N4YlN2Y7NuY4N1pYlN1uY3NY3eNkYcNkYcN2fY9NpY3rN2dYN1zYN2Y2NY2N2",
      "Y2N4YNcYNYN7YN1tYN4Y2N8YN7YNsYN4YN5YNY3N7YN9gY2N84Y2NfmY1jN4Y1eN8YNeYN7YvoNvY6N6Y79N1qY42N19",
      "YaN7Y2NaY4N2Y8wNuYiN18Y4NaY5NYcwNsY4NaYkmN7YN4YN2YNfYN5hY2N9Y1cN1wY7NY4NaY4N2YltN1wY24N1pY5e",
      "N4YNrYN2YNY2NYNaYN4YNYNY6NY4NYNYNYN3YN2YNY2NYNYNYNYNYN2YNY2N4YN7YN4YN4YNYNaYNhY5N3YN5YNhY1gN",
      "2Y7iN18Y4N2sYcNfY2NfYNfYN11YaN4uY1kNtYdN18Y4N9Y7N2YeN6Y4aNrcY4NhY3NdY3N3bY4N2nY6NcY4NYfNcY4N",
      "1kY8NaY6N14Y8NuY2N2Y26N9gYcNeY2NdY3N9Y7N1aYN7Y8NeY4N9Y7N9Y7N43YN1jY11NaYsmNwyoYwN37eY6N66Y2N",
      "4g2YeN5rlY2e7Nf2Y15uN3t7Y5N38gYjgwgN"]),
    (["graphemelink", "grlink"],
     ["1u5NY3jNY3jNY3jNY3jNY3jNY3jNY3jNY31N2YgNY3gNY33NY3jNY5lNY50N2Y1cpN2YuNY4dNYi5NY6bNY2tN2Y1yN2",
      "Y3grNYo7aNY11NY47NY3yNY30NY8lNY6uNYimpNY16uNY15NYeNY1lNY3dN2Y3vNY38NY50NY2qNY6sNY3jNY70NY3jN",
      "Y3aNY38NY7hNY77N2Y4hNY2bNYiNY29NYbpNY78N2Y29NYbtN2YmawtN"]),
    (["hyphen"],
     ["19NY3jNYykNY3nfNY1l5N2Y2rpNYkjNY14knNY4pNY2fNYmh7eN"]),
    (["idsb", "idsbinaryoperator"],
     ["9gwN2Y2N8Ynm6cN"]),
    (["idst", "idstrinaryoperator"],
     ["9gyN2Ynm6kN"]),
    (["joinc", "joincontrol"],
     ["6bwN2YnpbmN"]),
    (["loe", "logicalorderexception"],
     ["2tcN5Y3fN5Y25sN3Y2NYsmyN2Y2NYN2YmxxfN"]),
    (["nchar", "noncharactercodepoint"],
     ["1e4wNwYemN2Y1ekeN2Y1ekeN2Y1ekeN2Y1ekeN2Y1ekeN2Y1ekeN2Y1ekeN2Y1ekeN2Y1ekeN2Y1ekeN2Y1ekeN2Y1ek",
      "eN2Y1ekeN2Y1ekeN2Y1ekeN2Y1ekeN2Y"]),
    (["oalpha", "otheralphabetic"],
     ["n9NYh6NeYNYN2YN2YNY20NbY1cNdYN7YgNY2tN7Y4N4Y2N2Y4NYzNYuNgY2uNbY2tN2Y3N9YN3YN4Y4nNcY3N7Y6NkY1",
      "iN2Y2NfYN2Y5N3YaN2YtN3Y1mN7Y2N2Y2N2YaNYaN2YtN3Y1mN5Y4N2Y2N2Y4NYuN2Y3NYbN3Y1mN8YN3YN2YlN2YmN3",
      "Y4N3Y1mN7Y2N2Y2N2Y9N2YaN2YuNY1nN5Y3N3YN3YaNY14N5Y1lN7YN3YN3Y8N2YbN2YtN3Y1mN7YN3YN3Y8N2YbN2Yf",
      "NYcN4Y1mN7YN3YN3YaNYaN2YtN3Y23N6YNYN8YiN2Y1pNY2N7YiNY2rNY2N6YN2YgNY4jNjY9NbYN10Y32NcYNY2N4Yn",
      "N4Y4N3YN3Y2N7Y3N4YdNcYNYaN4Y19wN2YuN2YuN2YuN2Y1uNjY58N2YyNY3aNcY4N9Y66N5Y1lNaY2NkY22N2YbN3Y1",
      "dN5Y1cNfY1oN3YuN9Y2N2Y1lNbY1eNjYc0NeY1c1N1gY1rqNwYnskN8YyN2Y9uNY8NYnN5Y2gN2Y1eNgYNY1lNY12N5Y",
      "sNcY19N4Y1cNcY11NY1vNeYcNY8N2Y19N3Y1eNYN3Y2N2Y5NY18N5Y5NY6lN8Yfn7NY1nbN5Y1aeN3YN2Y5N4YlwN4Ya",
      "rN2Y9fN3Y1hNeY19N2YbN3Y19N9Y9NY1pN3Y10NcYiN2Y1lN3Y1cNdYeN2Y2kN9Y2NY6NY2NY4dNaYnN4Y1mN7Y2N2Y2",
      "N2YaNYaN2Y5tNdYN3Y2yNiY6lN7Y2N7YtN2Y2aNfYNY2yNbY2vNeY75NdY6vN6YN2Y2N2Y3NYNY3yN7Y2N6Y4NYsNaY1",
      "6N5YN4YiNbY1aNeYbbN8YN7Y2bNmYNeY3eN6Y3NYN2YN3YNY3NY1uN5YN2YN4Y9oN4Y9N2YNY1cN7Y3N3YftaNYN1jY7",
      "N4Y2lN2Yf58NY6zlN7YNhY2N7YN2YN5Y2sNY1pzNY1k8NqY6NqY6NqYl5diN"]),
    (["odi", "otherdefaultignorablecodepoint"],
     ["njNY2rzN2Y18zN2Y1prNY3cuNY14qjNY27N9Yi9dzNYNuY2oN3kY6oN2s0Y44jkN"]),
    (["ogrext", "othergraphemeextend"],
     ["1xaNYoNY9yNYoNY2uNYoNY6iNYiN2Y2vNYoNY3bNYfNY2mtNYyeNY36pN2Y14z2N2Y3viNYoNY9kNYcNY6pNYowNY10d",
      "wNY8N5Yh419N2oY47lsN"]),
    (["oidc", "otheridcontinue"],
     ["53NYjzNY34xN9Y19kNYnqjpN"]),
    (["oids", "otheridstart"],
     ["4udN2Y1oxNYlNY31oN2Ynm1vN"]),
    (["olower", "otherlowercase"],
     ["4qNYfNYdxN9Y7N2YuN5Y2oNY1gNY2o1NY2enN1rYdNYyN11Yj5NYdNYgNdY5vNgYnkNqY1huN2Yo4eN2Y5uNY3lN3Y3N",
      "2Yo2N4Y9NYi6uNY2N3YN16YN9Y16r9N1qYl8r6N"]),
    (["omath", "othermath"],
     ["2mNYohN3Y2NYqN2Y2N2Y5k0NYrN3YbNYwN4YoN2YeN2Y1tNdY4NY3N2Y4N5YiNY4NY2NaYNY3N5Y6NY3N2Y2N2YN3YN6",
      "Y3N4Y5N5Y23N5Y2N4YN2YN2YNYN5Y2N2Y4N2Y4NiY2N2YNYN7YNY6N2Y82N4Y4oN2YNYoNYhNYcdN2YcN9Y5N5Y5N2Y2",
      "N2Y3N5YeNYNY2N6YoN2Y1lNYNYtN4Y9N2Y9iN2YvNaYb7NmY1rN4YwN2Y15ybNYNY4NY5vNYNY160xN2dYN1zYN2Y2NY",
      "2N2Y2N4YNcYNYN7YN1tYN4Y2N8YN7YNsYN4YN5YNY3N7YN9gY2NpYNpYNvYNpYNvYNpYNvYNpYNvYNpYN8Y2N1eY4cgN",
      "4YNrYN2YNY2NYNaYN4YNYNY6NY4NYNYNYN3YN2YNY2NYNYNYNYNYN2YNY2N4YN7YN4YN4YNYNaYNhY5N3YN5YNhYl5xg",
      "N"]),
    (["otheruppercase", "oupper"],
     ["6lcNgYnaNqY2ixsNqY6NqY6NqYl5diN"]),
    (["patsyn", "patternsyntax"],
     ["xNfYaN7YqN4YNYqN4YyN7YNYN2YNYN2Y4NY4NY3NYnNYvNY654NoY8NfY2NjYNaY8hNk0Y4gNhiYuNvgYe8N3kYapN3Y",
      "4NpYfNY14i5N2Y79N2YmhfdN"]),
    (["patternwhitespace", "patws"],
     ["9N5YiNY2sNY688N2YoN2YnpauN"]),
    (["pcm", "prependedconcatenationmark"],
     ["16oN6Y5zNY1dNYaoN2Y28NY1g4aNYfNYmdrmN"]),
    (["qmark", "quotationmark"],
     ["yNY4NY3nNYfNY670N8YpN2Y2rrNYcpN4YdN3Y14ptN4Y59NY4NY2iN2Ymh7gN"]),
    (["radical"],
     ["96oNqYN2hYcN5yYnm7eN"]),
    (["regionalindicator", "ri"],
     ["2qcmNqYl5a8N"]),
    (["sentenceterminal", "sterm"],
     ["xNYcNYgNY11lNY43N3Y50NY17N3Y6uNY1pNYNY3N2Y85N2Y1d0N2YlyNY4N2YlhNY5iN2Y5oNY5NY8qN2Y9uN4Y4uN2Y",
      "2N2YtN2Y58N2Y1tN2YqkN2Y9N3Y2qsNYdNYmN2YbxNYn3wNY7iN2Y6bNY3NYamN2Y2eN2Y2nNY48N2Y43N3Y40N2Y6xN",
      "Yg9yNY3N2Y4pNYcNYgNY1tNY25wN2YzhN5Y18N4Y59N2Y39N4Y3jN3Y3lN2Y6NYgN2Y2gN2YN2Y30NYblN2YadN2Y5Nf",
      "Y2xN2Y6xN3YedNYNY6zN2Y2fN2YboN2Yj8N2Y22N2YeuhN2Y3pNY1tN2YbNYnnNYfeuNY5woNYl9x3N"]),
    (["sd", "softdotted"],
     ["2xN2Y5gNY7tNYuNY1gNYkNY8wNY2qNYNY4y1NY1fNYdNY3NY3oNY4dNYbpNY5yN2Y27mNY2bolN2Y1eN2Y1eN2Y1eN2Y",
      "1eN2Y1eN2Y1eN2Y1eN2Y1eN2Y1eN2Y1eN2Y1eN2Y1eN2Y1omNY8hN2YqNYl8rbN"]),
    (["term", "terminalpunctuation"],
     ["xNYaNYNYbN2Y3NYn2NY8NYe9NY1lNY20NYeNYN3Y50NY17NbYNY6jN2Y1iNfYvNY79N2Yz8N2Y4sNY4N6Y8nN2YlxN8Y",
      "lhNY3gN3Y1zN2Y4dN3Y3NY13N4Y2N2Y8qN2Y9uN4Y4uN2YN3YtN2Y58N5Y1qN2YqkN2Y9N3Y2qsNYdNY4NYaNYN2Y3N2",
      "YbwN2Yn3vN2Y7hN3Y6bN5YamN2Y2eN2Y2nNY47N3Y43N3Y3jNYgN2Y6xNYg9wN3YN4Y4pNYaNYNYbN2Y3NY1tNY2NYu2",
      "NY1cNYw6NY5jNY8mN2Y48N6Y1wN6Y2hN4YqgN5Y18N4Y59N7Y34N4Y3jN3Y3lN2Y6NYgN2Y2gN5Y30NYblN3YcN2Y9yN",
      "4Y3NfY2xN2Y6xN3YedNYNY6zN2Y2fN2Y4N2YbiN3Y19NYhxN2Y22N2Y10rN5YdtlN2Y3pNY1tN3YaNYnmN2YfeuNY5wn",
      "N4Yl9x1N"]),
    (["uideo", "unifiedideograph"],
     ["a9sN534Y1sNg74YhseN2YNYN2YaNYNYN2Y2N3Y1fpyNwyoYwN37eY6N66Y2N4g2YeN5rlY3z3N3t7Y5N38gYjgwgN"]),
    (["variationselector", "vs"],
     ["4qzN3YNY19f4NgYi9yoN6oY47bkN"]),
    (["xidc", "xidcontinue"],
     ["1cNaY7NqY4NYNqY1bNYaNYNY2NY5NnYNvYNcqY4NcYeN5Y7NYNYhN39YN2Y3N3YNY6N5YNYNkYN2bYN3vYN5Y2N4mYN1",
      "2Y2NY6N15Y8N19YNYN2YN2YNY8NrY4N4YtNbY5N22Y4N2uYN8Y2NaYNjY2NYgN1nY2N2tYeN1iY4NY2NY2N1aYiNsY4N",
      "bY5NoYN6Y9N22YN3lY2NaYNjYN8Y2N2Y2NmYN7YNY3N4Y2N9Y2N2Y2N4Y8NY4N2YN5Y2NcYaNYNY2N3YN6Y4N2Y2NmYN",
      "7YN2YN2YN2Y2NYN5Y4N2Y2N3Y3NY7N4YNY7NgYbN3YN9YN3YNmYN7YN2YN5Y2NaYN3YN3Y2NYfN4Y2NaY9N7YN3YN8Y2",
      "N2Y2NmYN7YN2YN5Y2N9Y2N2Y2N3Y7N3Y4N2YN5Y2NaYNYgN2YN6Y3N3YN4Y3N2YNYN2Y3N2Y3N3Y3NcY4N5Y3N3YN4Y2",
      "NY6NYeNaYgNdYN3YNnYNgY2N9YN3YN4Y7N2YN3Y2NY2N4Y2NaYgN4YN8YN3YNnYNaYN5Y2N9YN3YN4Y7N2Y6N2YN4Y2N",
      "aYN3YcNdYN3YN1fYN3YN5Y5N4Y7N5Y2NaYaN6YN3YNiY3NoYN9YNY2N7Y3NY4N6YNYN8Y6NaY2N2YdN1mY5NfYNaY13N",
      "2YNYN5YNoYNYNnY2N5YNYN7YNaY2N4YwNYnN2Y6NaYbNYNYNY4NaYN10Y4NkYNiYN10Y9NY1lN22Y6N26Y2N12YNY5NY",
      "2N17YN99YN4Y2N7YNYN4Y2N15YN4Y2NxYN4Y2N7YNYN4Y2NfYN1lYN4Y2N1vY2N3Y9N9YeNgYgN2eY2N6Y3Nh8Y2NhYN",
      "qY5N23Y3NbY7NmY9NmYbNkYcNdYN3YN2YcN2cY3NY4N2Y2NaYxN3YNbY6N2hY7N17Y5N1yYaNvYNcY4NcYaN14Y2N5Yb",
      "N18Y4NqY6NbY11NsY4N1rYNtY2NbY6NaYdNY8NeYNgY1dN25Y3NaYhN9YcN38YcN1kY8NaY3N1dY2N9Y7N17Y2N3YgN3",
      "YN13Y5NeuY2N6Y2N12Y2N6Y2N8YNYNYNYNvY2N1hYN7YNY3N3YN7Y3N4Y2N6Y4NdY5N3YN7Y1uN2YjNYsNYdNYgNdY1f",
      "NdY4NY3NcYhNY4NY2NaYNY2N6Y6NYNYNYNgY2N4Y5N5Y4NYhN15Y22fN6dY6N9YcN12YNY5NY2N1kY7NYfNoY9N7YN7Y",
      "N7YN7YN7YN7YN7YN7YNwYedN3YpNfYN5Y2N5Y4N2eY2N2Y2N3YN2iYN4Y5N17YN2mYhNwY1cNgYe8N534Y1sNh3hY1vN",
      "1aY2N7hY3NsYkN1cY4NaYN37Y11N9Y2N2vY2N1sY5N2YNYN5YoN1iY4NYjN1gYcN1yYaNaY6NoY3NYN1dY2N10YcNtY3",
      "N1tYeNbY6NvYN1jY9NeY2NaY6NnY3N21YoN3Y2NgY2N5YaN6Y2N6Y2N6Y9N7YN7YN17YNeY6N3fYN2Y2NaY6N8mcYcNn",
      "Y4N1dY6isNa6Y2N2yY12N7YcN5Y5NcYNdYN5YNYN2YN2YN30YxN3vY6N62YiN1sY2N1iY14NaY6NgYgNgY3N2YoN3YxN",
      "YNY3NYNYNYNYN3iYjNaY7NqY4NYNqYbN2hY3N6Y2N6Y2N6Y2N3YzNcYNqYNjYN2YNfY2NeYyN3fY1xN1hY3sNY3mNtY3",
      "N1dYfNYvNwYdNuY5N17Y5NuY2N10Y4N8YN5Y16N4eY2NaY6N10Y4N10Y4N14Y8N1gYcNbYNfYN7YN2YNbYNfYN7YN2Y1",
      "vN8nY9NmYaN8YoN6YN16YN9Y1xN6Y2NYN18YN2Y3NY2NnYaNnY9NvY1tNjYN2YaNmYaNqY1yN1kY6N2Y1sN4YN2Y5N8Y",
      "N3YNtY2N3Y4NYwNtY3NtYzN8YNuYpN1iYaNmYaNjYdNiY32N21Y1jN1fYdN1fYdN14Y8NaY92N16YN2Y3N2Y23NwYaNY",
      "8NxYvNmY16NlYrNnY9N1zYvNgY9N1oY7NYdNpY7NaY6N1hYNaY4N4Y8N10Y2NY9N1xY4N4YNdYNYzNiYN11Y6N4Y1qN7",
      "YNYN4YNfYNaY7N1nY5NaY6N4YN8Y2N2Y2NmYN7YN2YN5YNaY2N2Y2N3Y2NY6NY5N7Y2N7Y3N5Y3vN23Y5NaY4N4YuN1y",
      "YNY8NaY4mN1iY2N9YnN6YyN1tY3NYbNaY12N1lY7NaY1iNrY2NfY4NaY6N7Y55N1nY2tN22YlN8Y2NY2N8YN2YNuYN2Y",
      "2N9YcNaY1yN8Y2N1aY2N8YN2YrN1rY8NY8N22Y3NYiN21Y7bN9YN19YN9YfNaYoNuY2NmYNeY21N7YN2YN18Y3NYN2YN",
      "9Y8NaY6N6YN2YN11YN2YN6Y7NaY8mNnY9NhYN15Y3N5YdNaY2eNY27NpmY2uN33YhN5gY218N2pYfNtsYgNmY33eNg7Y",
      "6ntNftY7NvYNaY6N27YNaY6NuY2N5YbN1jY9N4YcNaY9NlY5NjYj4N1sY3kN23Y4N1lY7NhY1sN2YN2YbN2YeN4qgY8N",
      "yeY16N9Y6w7N4YN7YN2YN83YfNYtN3Y2NYeN4Y8Nb0Y1s4N2zY5NdY3N9Y7NaY3N2Y3mpN1aY2NnYf2N5Y3N6Y8N8Y2N",
      "7YuN4Y44N3YcbN2dYN1zYN2Y2NY2N2Y2N4YNcYNYN7YN1tYN4Y2N8YN7YNsYN4YN5YNY3N7YN9gY2NpYNpYNvYNpYNvY",
      "NpYNvYNpYNvYNpYN8Y2N1eYe8N1jY4N1eY8NYeNYmN5YNfYuoNvY6N6Y5xN7YNhY2N7YN2YN5Y5N1qYxNY34N19Y3NeY",
      "2NaY4NY8xNvYhN1mYd2N16YkmN7YN4YN2YNfYN5hYbN7Y15N24Y4NaYx2N4YNrYN2YNY2NYNaYN4YNYNY6NY4NYNYNYN",
      "3YN2YNY2NYNYNYNYNYN2YNY2N4YN7YN4YN4YNYNaYNhY5N3YN5YNhY2lwNaYsmNwyoYwN37eY6N66Y2N4g2YeN5rlY2e",
      "7Nf2Y15uN3t7Y5N38gYf9e8N6oY47bkN"]),
    (["xids", "xidstart"],
     ["1tNqY6NqY1bNYaNY4NY5NnYNvYNcqY4NcYeN5Y7NYNY3lN5YN2Y3N3YNY6NYN3YNYNkYN2bYN3vY8N4mYN12Y2NY6N15",
      "Y1zNrY4N4Y19N17YzN2YN2rYNYfN2Y7N2YaN3Y2NYgNYNuYtN2hYbNYoNxY9N2Y4NY5NmY4NY9NY3NYnNpY7NbY5NoYN",
      "6YhN16Y1mN1iY3NYiNY7NaYfNgY4N8Y2N2Y2NmYN7YNY3N4Y3NYgNYdN2YN3YeN2YaNY8N6Y4N2Y2NmYN7YN2YN2YN2Y",
      "vN4YNYjN3YgN9YN3YNmYN7YN2YN5Y3NYiNYfN2YnNYbN8Y2N2Y2NmYN7YN2YN5Y3NYuN2YN3YfNYhNYN6Y3N3YN4Y3N2",
      "YNYN2Y3N2Y3N3Y3NcYmNY1gN8YN3YNnYNgY3NYqN3Y2NY2N2YuNY4N8YN3YNnYNaYN5Y3NYvN2YN2YfN2YhN9YN3YN15",
      "Y2NYgNY5N3Y8N3YoN6Y5NiY3NoYN9YNY2N7Y1mN1cYNYdN7Y1mN2YNYN5YNoYNYNaYNYaNY2N5YNYlN4YwNY1rN8YN10",
      "YrN5Y37N17YkNYgN6Y4N4Y3NY3N2Y7N3Y4NdYcNYhN12YNY5NY2N17YN99YN4Y2N7YNYN4Y2N15YN4Y2NxYN4Y2N7YNY",
      "N4Y2NfYN1lYN4Y2N1vY11NgYgN2eY2N6Y3Nh8Y2NhYNqY5N23Y3NbY7NiYdNjYeNiYeNdYN3YfN1gYzNY4NY1vN2hY7N",
      "15YNY5N1yYaNvY1dNuY2N5YbN18Y4NqY1iNnY9N1hY2aNY2lN1bYhN8Y1iNuYdN2YaN18YqN10Y15N3YaN10Y2N9Y7N1",
      "7Y2N3Y15N4YN6YN2Y3NY5N5cY1sN7qY2N6Y2N12Y2N6Y2N8YNYNYNYNvY2N1hYN7YNY3N3YN7Y3N4Y2N6Y4NdY5N3YN7",
      "Y38NYdNYgNdY2tNY4NY2NaYNY2N6Y6NYNYNYNgY2N4Y5N5Y4NYhN15Y22fN6dY6N4Y3N2YcN12YNY5NY2N1kY7NYgNnY",
      "9N7YN7YN7YN7YN7YN7YN7YN7YfaN3YpN9Y7N5Y2N5Y4N2eY6N3YN2iYN4Y5N17YN2mYhNwY1cNgYe8N534Y1sNh3hY1v",
      "N1aY2N7hY3NgYaN2YkN1bYgNvY2N28Y13N9Y2N2vY2N1sY5N2YNYN5YoNgYN3YN4YNnYtN1gYeN1eY1qN6Y3NYN2YbNs",
      "YaNnYpNtY7N1bYsNYgN5YNaYaN5YN15YnN3YN8YkNnY3NY3N1eYNY3N2Y2N5Y2NYNYoN3Y2NbY7N3YcN6Y2N6Y2N6Y9N",
      "7YN7YN17YNeY6N37YtN8mcYcNnY4N1dY6isNa6Y2N2yY12N7YcN5Y5NYNaYNdYN5YNYN2YN2YN30YxN3vY6N62YiN1sY",
      "2N1iY14NaY3bNYNY3NYNYNYNYN3iY10NqY6NqYbN1kY2NvY3N6Y2N6Y2N6Y2N3YzNcYNqYNjYN2YNfY2NeYyN3fY1xN1",
      "hY7fNtY3N1dY1bNwYdNuY5N12YaNuY2N10Y4N8YN5Y16N4eYiN10Y4N10Y4N14Y8N1gYcNbYNfYN7YN2YNbYNfYN7YN2",
      "Y1vN8nY9NmYaN8YoN6YN16YN9Y1xN6Y2NYN18YN2Y3NY2NnYaNnY9NvY1tNjYN2YaNmYaNqY1yN1kY6N2Y1sNYfN4YN3",
      "YNtY16NtY3NtYzN8YNsYrN1iYaNmYaNjYdNiY32N21Y1jN1fYdN1fYdN10Y9oN16Y6N2Y26NtYaNY8NmY16NiY1aNlYr",
      "NnYcN1hY1lN2Y2NYdN19YwNpYqN10YtNY2NY8NzY3NYcN1cYeN4YlNYNYzNiYNpYjN2Y1rN7YNYN4YNfYNaY7N1bY12N",
      "8Y2N2Y2NmYN7YN2YN5Y3NYiNYcN5Y4eN1hYiN4YkN3YuN1cYkN2YNY54N1bY15N4Y10N1cYkNY1nN17YdNY1zNrY11N7",
      "Y55N18Y38N1sYvN8Y2NY2N8YN2YNoYfNYNY2mN8Y2N13YgNYNYsNYaN14Y7NYlNYbN1aYjNYiN21Y7bN9YN11YhNY1dN",
      "uY34N7YN2YN12YlNYpN6YN2YNwYeNY93NjYfNYNdYNyY3gNY27NpmY2uN33YhN5gY218N2pYfNtsYhN6Y33tNg7Y6ntN",
      "ftY7NvYhN27YhNuYiN1cYgN4YvNlY5NjYj4N1sY3kN23Y5NY1uNdY1sN2YNYsN4qgY8NyeY16N9Y6w7N4YN7YN2YN83Y",
      "fNYtN3Y2NYeN4Y8Nb0Y1s4N2zY5NdY3N9Y7NaY4meN2dYN1zYN2Y2NY2N2Y2N4YNcYNYN7YN1tYN4Y2N8YN7YNsYN4YN",
      "5YNY3N7YN9gY2NpYNpYNvYNpYNvYNpYNvYNpYNvYNpYN8Y1f8NvY6N6Y79N1qY42N19YaN7YgNY8xNuYiN18YdgNsYl0",
      "N7YN4YN2YNfYN5hY1nN1wY7NYxgN4YNrYN2YNY2NYNaYN4YNYNY6NY4NYNYNYN3YN2YNY2NYNYNYNYNYN2YNY2N4YN7Y",
      "N4YN4YNYNaYNhY5N3YN5YNhY3esNwyoYwN37eY6N66Y2N4g2YeN5rlY2e7Nf2Y15uN3t7Y5N38gYjgwgN"])]

private def runs : Array (Array (Nat × String)) := all.map fun p => readRuns 1 p.2

/-- Whether the property at a position holds. -/
def holds (i : Nat) (c : Char) : Bool := (runs[i]?.bind (lookup · c.toNat)) = some "Y"

def byName? (name : String) : Option Nat := all.findIdx? (·.1.contains name)

end Turnstile.Unicode.Further
