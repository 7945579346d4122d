import TinySocks.Core.Template
import TinySocks.Core.Text

/-!
# The statistics page (`assets/stats.html`)

The page as it is compiled in, line by line, in two parts around the line for the
recent errors. Its braces are those of its placeholders, which open with a letter,
and those of its style sheet and its script, which stand at the end of a line.
-/
namespace TinySocks.L2

open TinySocks.Core

/-- mirrors assets/stats.html:1-263 -/
def statsHtmlHead : List String :=
  ["<!doctype html>",
   "<html lang=\"en\">",
   "",
   "<head>",
   "    <meta charset=\"utf-8\">",
   "    <meta name=\"viewport\" content=\"width=device-width,initial-scale=1\">",
   "    <meta name=\"color-scheme\" content=\"light dark\">",
   "    <title>Proxy Statistics</title>",
   "    <style>",
   "        :root \x7b",
   "            font-family: \"Comic Sans MS\", \"Arial\";",
   "            color-scheme: light dark;",
   "            --bg: #f6f7f9;",
   "            --fg: #182230;",
   "            --muted: #667085;",
   "            --border: #d9e1ec;",
   "            --section-bg: #ffffff;",
   "            --head-bg: #eef3f8;",
   "            --value-color: #0f172a;",
   "            --error-color: #b42318;",
   "            --header-border: #182230;",
   "            --card-radius: 6px;",
   "        \x7d",
   "",
   "        @media(prefers-color-scheme: dark) \x7b",
   "            :root \x7b",
   "                --bg: #0f141b;",
   "                --fg: #e5eaf0;",
   "                --muted: #9aa6b2;",
   "                --border: #263241;",
   "                --section-bg: #151b23;",
   "                --head-bg: #1b2430;",
   "                --value-color: #f5f7fa;",
   "                --error-color: #ff6b5f;",
   "                --header-border: #5d6b7a;",
   "            \x7d",
   "        \x7d",
   "",
   "        * \x7b",
   "            box-sizing: border-box;",
   "        \x7d",
   "",
   "        body \x7b",
   "            margin: 0;",
   "            padding: 32px 24px;",
   "            background: var(--bg);",
   "            color: var(--fg);",
   "        \x7d",
   "",
   "        main \x7b",
   "            max-width: 1000px;",
   "            margin: 0 auto;",
   "        \x7d",
   "",
   "        header \x7b",
   "            margin-bottom: 28px;",
   "            border-bottom: 2px solid var(--header-border);",
   "            padding-bottom: 16px;",
   "        \x7d",
   "",
   "        h1 \x7b",
   "            margin: 0;",
   "            font-size: 24px;",
   "            font-weight: 700;",
   "            letter-spacing: -0.02em;",
   "        \x7d",
   "",
   "        .grid \x7b",
   "            display: grid;",
   "            grid-template-columns: repeat(2, minmax(0, 1fr));",
   "            gap: 20px;",
   "        \x7d",
   "",
   "        section \x7b",
   "            background: var(--section-bg);",
   "            border: 1px solid var(--border);",
   "            border-radius: var(--card-radius);",
   "            overflow: hidden;",
   "        \x7d",
   "",
   "        h2 \x7b",
   "            margin: 0;",
   "            padding: 10px 14px;",
   "            background: var(--head-bg);",
   "            border-bottom: 1px solid var(--border);",
   "            font-size: 11px;",
   "            font-weight: 700;",
   "            letter-spacing: 0.05em;",
   "            text-transform: uppercase;",
   "            color: var(--muted);",
   "        \x7d",
   "",
   "        table \x7b",
   "            width: 100%;",
   "            border-collapse: collapse;",
   "        \x7d",
   "",
   "        th,",
   "        td \x7b",
   "            padding: 10px 14px;",
   "            border-bottom: 1px solid var(--border);",
   "            font-size: 13px;",
   "            line-height: 1.4;",
   "        \x7d",
   "",
   "        tr:last-child th,",
   "        tr:last-child td \x7b",
   "            border-bottom: 0;",
   "        \x7d",
   "",
   "        th \x7b",
   "            text-align: left;",
   "            font-weight: 400;",
   "            color: var(--muted);",
   "        \x7d",
   "",
   "        td \x7b",
   "            text-align: right;",
   "            font-weight: 600;",
   "            font-variant-numeric: tabular-nums;",
   "            color: var(--value-color);",
   "            white-space: nowrap;",
   "        \x7d",
   "",
   "        .error-value \x7b",
   "            color: var(--error-color) !important;",
   "        \x7d",
   "",
   "        .wide \x7b",
   "            grid-column: 1 / -1;",
   "        \x7d",
   "",
   "        .error-message,",
   "        .empty-value \x7b",
   "            text-align: left;",
   "            white-space: normal;",
   "        \x7d",
   "",
   "        .error-message \x7b",
   "            font-weight: 400;",
   "            color: var(--value-color);",
   "        \x7d",
   "",
   "        .error-time \x7b",
   "            display: inline-block;",
   "            min-width: 150px;",
   "            margin-right: 10px;",
   "            color: var(--muted);",
   "            font-variant-numeric: tabular-nums;",
   "        \x7d",
   "",
   "        .empty-value \x7b",
   "            font-weight: 400;",
   "            color: var(--muted);",
   "        \x7d",
   "",
   "        @media(max-width: 768px) \x7b",
   "            .grid \x7b",
   "                grid-template-columns: 1fr;",
   "                gap: 16px;",
   "            \x7d",
   "",
   "            body \x7b",
   "                padding: 20px 16px;",
   "            \x7d",
   "        \x7d",
   "    </style>",
   "</head>",
   "",
   "<body>",
   "    <main>",
   "        <header>",
   "            <h1>Proxy Statistics</h1>",
   "        </header>",
   "",
   "        <div class=\"grid\">",
   "            <section>",
   "                <h2>Connections</h2>",
   "                <table>",
   "                    <tr>",
   "                        <th>Uptime</th>",
   "                        <td>\x7buptime\x7d</td>",
   "                    </tr>",
   "                    <tr>",
   "                        <th>Accepted connections</th>",
   "                        <td>\x7btotal_connections\x7d</td>",
   "                    </tr>",
   "                    <tr>",
   "                        <th>Active connections</th>",
   "                        <td>\x7bactive_connections\x7d</td>",
   "                    </tr>",
   "                    <tr>",
   "                        <th>SOCKS5 connections</th>",
   "                        <td>\x7bsocks5_connections\x7d</td>",
   "                    </tr>",
   "                    <tr>",
   "                        <th>HTTP connections</th>",
   "                        <td>\x7bhttp_connections\x7d</td>",
   "                    </tr>",
   "                    <tr>",
   "                        <th>Connection limit rejections</th>",
   "                        <td>\x7bconnection_limit_rejections\x7d</td>",
   "                    </tr>",
   "                </table>",
   "            </section>",
   "",
   "            <section>",
   "                <h2>Traffic</h2>",
   "                <table>",
   "                    <tr>",
   "                        <th>Total traffic</th>",
   "                        <td>\x7btotal_traffic\x7d</td>",
   "                    </tr>",
   "                    <tr>",
   "                        <th>TCP client to remote</th>",
   "                        <td>\x7btcp_up\x7d</td>",
   "                    </tr>",
   "                    <tr>",
   "                        <th>TCP remote to client</th>",
   "                        <td>\x7btcp_down\x7d</td>",
   "                    </tr>",
   "                </table>",
   "            </section>",
   "",
   "            <section>",
   "                <h2>UDP Traffic</h2>",
   "                <table>",
   "                    <tr>",
   "                        <th>UDP associate sessions</th>",
   "                        <td>\x7budp_associate_sessions\x7d</td>",
   "                    </tr>",
   "                    <tr>",
   "                        <th>Client to remote bytes</th>",
   "                        <td>\x7budp_bytes_out\x7d</td>",
   "                    </tr>",
   "                    <tr>",
   "                        <th>Remote to client bytes</th>",
   "                        <td>\x7budp_bytes_in\x7d</td>",
   "                    </tr>",
   "                </table>",
   "            </section>",
   "",
   "            <section>",
   "                <h2>Errors</h2>",
   "                <table>",
   "                    <tr>",
   "                        <th>Authentication failures</th>",
   "                        <td class=\"error-value\">\x7bauth_failures\x7d</td>",
   "                    </tr>",
   "                    <tr>",
   "                        <th>Outbound connect failures</th>",
   "                        <td class=\"error-value\">\x7bconnect_failures\x7d</td>",
   "                    </tr>",
   "                    <tr>",
   "                        <th>Relay failures</th>",
   "                        <td class=\"error-value\">\x7brelay_failures\x7d</td>",
   "                    </tr>",
   "                </table>",
   "            </section>",
   "",
   "            <section class=\"wide\">",
   "                <h2>Recent Errors</h2>",
   "                <table>"]

/-- mirrors assets/stats.html:265-293 -/
def statsHtmlTail : List String :=
  ["                </table>",
   "            </section>",
   "        </div>",
   "    </main>",
   "    <script>",
   "        const errorTimeFormatter = new Intl.DateTimeFormat(undefined, \x7b",
   "            year: \"numeric\",",
   "            month: \"2-digit\",",
   "            day: \"2-digit\",",
   "            hour: \"2-digit\",",
   "            minute: \"2-digit\",",
   "            second: \"2-digit\",",
   "            hourCycle: \"h23\"",
   "        \x7d);",
   "",
   "        document.querySelectorAll(\"[data-unix-seconds]\").forEach((node) => \x7b",
   "            const seconds = Number(node.dataset.unixSeconds);",
   "            if (!Number.isFinite(seconds)) \x7b",
   "                return;",
   "            \x7d",
   "",
   "            const date = new Date(seconds * 1000);",
   "            node.setAttribute(\"datetime\", date.toISOString());",
   "            node.textContent = errorTimeFormatter.format(date);",
   "        \x7d);",
   "    </script>",
   "</body>",
   "",
   "</html>"]

def textOf (lines : List String) : Str := lines.flatMap fun l => l.toList ++ ['\n']

/-- mirrors assets/stats.html -/
def statsHtml : Str :=
  textOf statsHtmlHead ++
    ("                    ".toList ++ ("\x7brecent_errors\x7d".toList ++ ('\n' :: textOf statsHtmlTail)))

/-! ## Its placeholders -/

end TinySocks.L2
