/-!
# The fixed part of component source

A component registers a custom element with the life cycle of a graphic: loading, entrance, exit,
live data and custom actions.  Its behaviour does not depend on the template, so this part of the
source is the same for all of them; the values of the template stand before it.
-/

namespace BroadcastGraphics
namespace ComponentScript

/-- Construction and attachment. -/
def construction : List String := [
  "    constructor() \x7b",
  "        super();",
  "        this.attachShadow(\x7b mode: 'open' \x7d);",
  "        this.data = \x7b\x7d;",
  "        this.isVisible = false;",
  "        this.state = 'unloaded';",
  "        this.elements = ELEMENTS;",
  "        this.animationSettings = ANIMATION_SETTINGS;",
  "        this.elementStyles = ELEMENT_STYLES;",
  "        this._timer = null;",
  "        this._settle = null;",
  "    \x7d",
  "",
  "    connectedCallback() \x7b",
  "        if (this.isVisible) \x7b",
  "            this.render(NEUTRAL_TRANSFORM, 'none');",
  "        \x7d",
  "    \x7d",
  ""]

/-- Loading and disposal. -/
def loading : List String := [
  "    async load() \x7b",
  "        this._beginTransition();",
  "        this.data = \x7b\x7d;",
  "        this.isVisible = false;",
  "        this.state = 'hidden';",
  "        this._clear();",
  "        return 'completed';",
  "    \x7d",
  "",
  "    async dispose() \x7b",
  "        this._beginTransition();",
  "        this.isVisible = false;",
  "        this.state = 'disposed';",
  "        this._clear();",
  "        return 'completed';",
  "    \x7d",
  ""]

/-- The entrance. -/
def playing : List String := [
  "    async playAction(skipAnimation = false) \x7b",
  "        if (this.state === 'disposed') \x7b",
  "            return 'noop';",
  "        \x7d",
  "        this._beginTransition();",
  "        this.isVisible = true;",
  "        if (skipAnimation) \x7b",
  "            this.state = 'visible';",
  "            this.render(NEUTRAL_TRANSFORM, 'none');",
  "            return 'skipped';",
  "        \x7d",
  "        const settings = this.animationSettings;",
  "        this.state = 'animatingIn';",
  "        this.render(offsetTransform(settings.slideInDirection), 'none');",
  "        const container = this._container();",
  "        // flush the offset position before the transition starts",
  "        void container.offsetHeight;",
  "        container.style.transition = `transform $\x7bsettings.slideInDuration\x7dms $\x7bsettings.slideInType\x7d`;",
  "        container.style.transform = NEUTRAL_TRANSFORM;",
  "        return this._schedule(settings.slideInDuration, () => \x7b",
  "            this.state = 'visible';",
  "        \x7d);",
  "    \x7d",
  ""]

/-- The exit. -/
def stopping : List String := [
  "    async stopAction(skipAnimation = false) \x7b",
  "        if (this.state === 'disposed') \x7b",
  "            return 'noop';",
  "        \x7d",
  "        this._beginTransition();",
  "        if (!this.isVisible) \x7b",
  "            this.state = this.state === 'unloaded' ? 'unloaded' : 'hidden';",
  "            return 'noop';",
  "        \x7d",
  "        if (skipAnimation) \x7b",
  "            this._hide();",
  "            return 'skipped';",
  "        \x7d",
  "        const settings = this.animationSettings;",
  "        const direction = settings.slideOutDirection || settings.slideInDirection;",
  "        this.state = 'animatingOut';",
  "        const container = this._container();",
  "        container.style.transition = `transform $\x7bsettings.slideOutDuration\x7dms $\x7bsettings.slideOutType\x7d`;",
  "        container.style.transform = offsetTransform(direction);",
  "        return this._schedule(settings.slideOutDuration, () => \x7b",
  "            this._hide();",
  "        \x7d);",
  "    \x7d",
  ""]

/-- Live data and custom actions. -/
def updating : List String := [
  "    async updateAction(data) \x7b",
  "        if (this.state === 'disposed') \x7b",
  "            return 'noop';",
  "        \x7d",
  "        this.data = \x7b ...this.data, ...(data || \x7b\x7d) \x7d;",
  "        if (this.isVisible) \x7b",
  "            this._refreshContent();",
  "        \x7d",
  "        return 'completed';",
  "    \x7d",
  "",
  "    async customAction(action, data) \x7b",
  "        switch (action) \x7b",
  "            case 'slideIn':",
  "                return this.playAction(false);",
  "            case 'slideOut':",
  "                return this.stopAction(false);",
  "            default:",
  "                return 'noop';",
  "        \x7d",
  "    \x7d",
  ""]

/-- The timer of a movement. -/
def timing : List String := [
  "    _beginTransition() \x7b",
  "        if (this._timer !== null) \x7b",
  "            clearTimeout(this._timer);",
  "            this._timer = null;",
  "        \x7d",
  "        if (this._settle !== null) \x7b",
  "            const settle = this._settle;",
  "            this._settle = null;",
  "            settle('superseded');",
  "        \x7d",
  "    \x7d",
  "",
  "    _schedule(duration, onComplete) \x7b",
  "        return new Promise((resolve) => \x7b",
  "            this._settle = resolve;",
  "            this._timer = setTimeout(() => \x7b",
  "                this._timer = null;",
  "                this._settle = null;",
  "                onComplete();",
  "                resolve('completed');",
  "            \x7d, duration);",
  "        \x7d);",
  "    \x7d",
  ""]

/-- Hiding and finding the container. -/
def clearing : List String := [
  "    _hide() \x7b",
  "        this.isVisible = false;",
  "        this.state = 'hidden';",
  "        this._clear();",
  "    \x7d",
  "",
  "    _clear() \x7b",
  "        this.shadowRoot.innerHTML = '';",
  "    \x7d",
  "",
  "    _container() \x7b",
  "        return this.shadowRoot.querySelector('.container');",
  "    \x7d",
  ""]

/-- Live data in place. -/
def refreshing : List String := [
  "    _refreshContent() \x7b",
  "        for (const element of this.elements) \x7b",
  "            const node = this.shadowRoot.querySelector(`.element-$\x7belement.id\x7d`);",
  "            if (!node) \x7b",
  "                continue;",
  "            \x7d",
  "            const content = this.interpolateContent(element.content || '');",
  "            if (element.type === 'text') \x7b",
  "                node.innerHTML = escapeHtml(content);",
  "            \x7d else if (element.type === 'image') \x7b",
  "                node.setAttribute('src', content);",
  "            \x7d",
  "        \x7d",
  "    \x7d",
  ""]

/-- The markup of the graphic. -/
def rendering : List String := [
  "    render(transform, transition) \x7b",
  "        const style = `",
  "            <style>",
  "                :host \x7b",
  "                    display: block;",
  "                    position: relative;",
  "                    width: $\x7bCANVAS.width\x7dpx;",
  "                    height: $\x7bCANVAS.height\x7dpx;",
  "                    font-family: $\x7bCANVAS.fontFamily\x7d;",
  "                    overflow: hidden;",
  "                \x7d",
  "                .container \x7b",
  "                    position: absolute;",
  "                    inset: 0;",
  "                \x7d",
  "                .element \x7b",
  "                    position: absolute;",
  "                \x7d",
  "                $\x7bthis.elementStyles\x7d",
  "            </style>",
  "        `;",
  "",
  "        const elements = this.elements.map((element) => this.renderElement(element)).join('');",
  "",
  "        this.shadowRoot.innerHTML = `",
  "            $\x7bstyle\x7d",
  "            <div class=\"container\" style=\"transform: $\x7btransform\x7d; transition: $\x7btransition\x7d;\">",
  "                $\x7belements\x7d",
  "            </div>",
  "        `;",
  "    \x7d",
  "",
  "    renderElement(element) \x7b",
  "        const content = this.interpolateContent(element.content || '');",
  "        const geometry = `left: $\x7belement.x\x7dpx; top: $\x7belement.y\x7dpx; width: $\x7belement.width\x7dpx; height: $\x7belement.height\x7dpx;`;",
  "        const classes = `element element-$\x7belement.id\x7d`;",
  "",
  "        switch (element.type) \x7b",
  "            case 'text':",
  "                return `<div class=\"$\x7bclasses\x7d\" style=\"$\x7bgeometry\x7d\">$\x7bescapeHtml(content)\x7d</div>`;",
  "            case 'image':",
  "                return `<img class=\"$\x7bclasses\x7d\" src=\"$\x7bescapeHtml(content)\x7d\" style=\"$\x7bgeometry\x7d\" />`;",
  "            case 'rect':",
  "                return `<div class=\"$\x7bclasses\x7d\" style=\"$\x7bgeometry\x7d\"></div>`;",
  "            case 'circle':",
  "                return `<div class=\"$\x7bclasses\x7d\" style=\"$\x7bgeometry\x7d border-radius: 50%;\"></div>`;",
  "            default:",
  "                return '';",
  "        \x7d",
  "    \x7d",
  ""]

/-- Placeholders. -/
def filling : List String := [
  "    interpolateContent(content) \x7b",
  "        return content.replace(/\\\x7b\\\x7b(\\w+)\\\x7d\\\x7d/g, (match, key) => \x7b",
  "            const value = this.data[key];",
  "            return value === undefined || value === null ? match : String(value);",
  "        \x7d);",
  "    \x7d",
  "\x7d",
  ""]

/-- The movement of the container. -/
def movement : List String := [
  "const NEUTRAL_TRANSFORM = 'translateX(0) translateY(0)';",
  "",
  "function offsetTransform(direction) \x7b",
  "    switch (direction) \x7b",
  "        case 'right':",
  "            return 'translateX(100%)';",
  "        case 'top':",
  "            return 'translateY(-100%)';",
  "        case 'bottom':",
  "            return 'translateY(100%)';",
  "        case 'left':",
  "        default:",
  "            return 'translateX(-100%)';",
  "    \x7d",
  "\x7d",
  ""]

/-- Escaping of texts. -/
def escaping : List String := [
  "function escapeHtml(text) \x7b",
  "    return String(text)",
  "        .replace(/&/g, '&amp;')",
  "        .replace(/</g, '&lt;')",
  "        .replace(/>/g, '&gt;')",
  "        .replace(/\"/g, '&quot;')",
  "        .replace(/'/g, '&#x27;');",
  "\x7d"]

/-- All lines of the class body and of the functions after it. -/
def lines : List String :=
  construction ++ loading ++ playing ++ stopping ++ updating ++ timing ++
    clearing ++ refreshing ++ rendering ++ filling ++ movement ++ escaping

/-- The fixed part of the source. -/
def text : String :=
  String.intercalate "\n" lines

end ComponentScript
end BroadcastGraphics
